import Retention.Proofs.Table

/-!
What the reason of a verdict tells. From the reason alone one sees whether the resource is to be removed or
stopped, whether it could be inspected, and whether its age has taken back what its tags ask for.
-/
namespace Retention

/-- What becomes of a resource. Sparing is retention on account of the age. -/
inductive Effect
  | removal
  | stop
  | retention
  | sparing
  | undecided
deriving DecidableEq

namespace Operation

def effect : Operation → Effect
  | .terminate | .deregister | .delete => .removal
  | .shutdown => .stop
  | .keep | .ignore | .noOp => .retention
  | .notApplicable => .undecided

theorem removes_iff {operation : Operation} : operation.Removes ↔ operation.effect = .removal := by
  cases operation <;> simp [Removes, effect]

theorem eq_shutdown_iff {operation : Operation} : operation = .shutdown ↔ operation.effect = .stop := by
  cases operation <;> simp [effect]

theorem eq_notApplicable_iff {operation : Operation} :
    operation = .notApplicable ↔ operation.effect = .undecided := by
  cases operation <;> simp [effect]

end Operation

namespace Reason

def effect : Reason → Effect
  | .noTags | .keepTagMissing | .keepTagMismatch | .unguarded => .removal
  | .keepStateMissing => .stop
  | .guarded | .notAvailable | .notManual | .inUse | .defaultGroup | .keepTagPresent
  | .emptyBucket => .retention
  | .youngerThanThreshold | .ageUnknown => .sparing
  | .tagLookupFailed => .undecided

variable {reason : Reason}

theorem isRemoval_iff : reason ∈ [.noTags, .keepTagMissing, .keepTagMismatch, .unguarded] ↔
    reason.effect = .removal := by
  cases reason <;> simp [effect]

theorem eq_keepStateMissing_iff : reason = .keepStateMissing ↔ reason.effect = .stop := by
  cases reason <;> simp [effect]

theorem eq_tagLookupFailed_iff : reason = .tagLookupFailed ↔ reason.effect = .undecided := by
  cases reason <;> simp [effect]

theorem isAge_iff : reason = .youngerThanThreshold ∨ reason = .ageUnknown ↔
    reason.effect = .sparing := by
  cases reason <;> simp [effect]

end Reason

namespace Rules

variable {snapshot : Snapshot} {policy : Policy} {now : Instant}

theorem byIdentity_effect (snapshot : Snapshot) {removal : Operation} {guarded : Operation × Reason}
    (removes : removal.effect = .removal) (agrees : guarded.2.effect = guarded.1.effect) :
    (byIdentity snapshot removal guarded).2.effect =
      (byIdentity snapshot removal guarded).1.effect := by
  unfold byIdentity
  split
  · exact removes.symm
  · exact removes.symm
  · exact removes.symm
  · exact agrees

theorem keptOrShutdown_effect (keepsState : Bool) :
    (keptOrShutdown keepsState).2.effect = (keptOrShutdown keepsState).1.effect := by
  cases keepsState <;> rfl

/-- The tags give a reason of the same effect as their operation. -/
theorem byTags_effect (snapshot : Snapshot) :
    (byTags snapshot).2.effect = (byTags snapshot).1.effect := by
  unfold byTags
  split
  case h_1 | h_2 => exact byIdentity_effect snapshot rfl (keptOrShutdown_effect _)
  case h_4 | h_5 => exact byIdentity_effect snapshot rfl rfl
  case h_3 | h_6 =>
    split
    · exact byIdentity_effect snapshot rfl rfl
    · rfl
  case h_7 | h_8 | h_9 =>
    repeat' split
    all_goals rfl

theorem byTags_eq_notApplicable_iff : (byTags snapshot).1 = .notApplicable ↔
    ∃ count message, snapshot.details = .bucket count (.failed message) := by
  rw [← tabled_iff]
  constructor
  · intro row
    generalize snapshot.details = details at row
    cases row with
    | unreadableBucket => exact ⟨_, _, rfl⟩
  · rintro ⟨count, message, same⟩
    rw [same]
    exact .unreadableBucket

theorem effect_retainOperation (kind : Kind) : kind.retainOperation.effect = .retention := by
  cases kind <;> rfl

theorem sparing_eq_some_iff {reason : Reason} : sparing snapshot policy now = some reason ↔
    AsksAge snapshot policy ∧ spares policy
      (Age.since snapshot.kind.strictDayBoundary now snapshot.createdAt) = some reason := by
  rw [sparing, Option.ite_none_right_eq_some, consultsAge_iff]

theorem effect_of_spares {age : Age} {reason : Reason} (spared : spares policy age = some reason) :
    reason.effect = .sparing := by
  cases age with
  | unknown =>
    cases spared
    rfl
  | days count =>
    obtain ⟨-, ⟨⟩⟩ := Option.ite_none_right_eq_some.mp spared
    rfl

/-- A verdict is that of the tags, unless the age takes their operation back. -/
theorem decide_cases (snapshot : Snapshot) (policy : Policy) (now : Instant) :
    ((decide snapshot policy now).ageOverridden = false ∧
      (decide snapshot policy now).operation = (byTags snapshot).1 ∧
      (decide snapshot policy now).reason = (byTags snapshot).2) ∨
    ((decide snapshot policy now).ageOverridden = true ∧
      (decide snapshot policy now).operation = snapshot.kind.retainOperation ∧
      sparing snapshot policy now = some (decide snapshot policy now).reason) := by
  rw [Verdict.ageOverridden, decide_eq]
  simp only [spared_eq]
  cases sparing snapshot policy now with
  | none => simp
  | some reason =>
    by_cases retained : (byTags snapshot).1 = snapshot.kind.retainOperation
    · simp [retained]
    · simp [retained, Ne.symm retained]

theorem decide_effect (snapshot : Snapshot) (policy : Policy) (now : Instant) :
    ((decide snapshot policy now).ageOverridden = false ∧
      (decide snapshot policy now).reason.effect = (decide snapshot policy now).operation.effect) ∨
    ((decide snapshot policy now).ageOverridden = true ∧
      (decide snapshot policy now).reason.effect = .sparing ∧
      (decide snapshot policy now).operation.effect = .retention) := by
  rcases decide_cases snapshot policy now with ⟨own, operation, reason⟩ | ⟨own, operation, found⟩
  · refine .inl ⟨own, ?_⟩
    rw [operation, reason, byTags_effect]
  · refine .inr ⟨own, effect_of_spares (sparing_eq_some_iff.mp found).2, ?_⟩
    rw [operation, effect_retainOperation]

theorem decide_reason_effect_iff {effect : Effect} (tagged : effect ≠ .retention)
    (ageless : effect ≠ .sparing) : (decide snapshot policy now).operation.effect = effect ↔
      (decide snapshot policy now).reason.effect = effect := by
  rcases decide_effect snapshot policy now with ⟨-, same⟩ | ⟨-, reason, operation⟩
  · rw [same]
  · rw [reason, operation]
    exact ⟨fun same => absurd same.symm tagged, fun same => absurd same.symm ageless⟩

theorem sparing_of_reason (spared : (decide snapshot policy now).reason.effect = .sparing) :
    sparing snapshot policy now = some (decide snapshot policy now).reason := by
  rcases decide_cases snapshot policy now with ⟨-, -, reason⟩ | ⟨-, -, found⟩
  · -- No operation has the effect of sparing, so the reason is not that of the tags.
    rw [reason, byTags_effect] at spared
    cases chosen : (byTags snapshot).1 <;> simp [chosen, Operation.effect] at spared
  · exact found

theorem decide_age (asked : AsksAge snapshot policy) : (decide snapshot policy now).age =
    Age.since snapshot.kind.strictDayBoundary now snapshot.createdAt := by
  rw [decide_eq]
  exact if_pos (consultsAge_iff.mpr asked)

theorem decide_age_eq_days_iff : (∃ days, (decide snapshot policy now).age = .days days) ↔
    AsksAge snapshot policy ∧ ∃ created, snapshot.createdAt = some created := by
  by_cases asked : AsksAge snapshot policy
  · rw [decide_age asked]
    cases snapshot.createdAt <;> simp [asked, Age.since]
  · have unasked : ¬ consultsAge snapshot policy = true := fun consulted =>
      asked (consultsAge_iff.mp consulted)
    rw [decide_eq]
    simp [asked, unasked]

theorem decide_eq_notApplicable_iff : (decide snapshot policy now).operation = .notApplicable ↔
    ∃ count message, snapshot.details = .bucket count (.failed message) := by
  rcases decide_cases snapshot policy now with ⟨-, operation, -⟩ | ⟨-, operation, found⟩
  · rw [operation, byTags_eq_notApplicable_iff]
  · rw [operation]
    constructor
    · intro undecided
      have retained := effect_retainOperation snapshot.kind
      rw [undecided] at retained
      cases retained
    · rintro ⟨count, message, same⟩
      have aged := (sparing_eq_some_iff.mp found).1.2.1
      simp [Snapshot.kind, same, Details.kind, agedKinds] at aged

/-- A resource is spared for its youth if it has a creation time, and for want of one otherwise. -/
theorem decide_age_of_spared (spared : (decide snapshot policy now).reason.effect = .sparing) :
    ((decide snapshot policy now).reason = .ageUnknown ∧ snapshot.createdAt = none) ∨
    ((decide snapshot policy now).reason = .youngerThanThreshold ∧
      ∃ days, (decide snapshot policy now).age = .days days ∧ days ≤ policy.maxAgeDays.toNat) := by
  obtain ⟨asked, found⟩ := sparing_eq_some_iff.mp (sparing_of_reason spared)
  rw [decide_age asked]
  cases birth : snapshot.createdAt with
  | none =>
    rw [birth] at found
    exact .inl ⟨(Option.some.inj found).symm, rfl⟩
  | some created =>
    rw [birth] at found
    obtain ⟨young, same⟩ := Option.ite_none_right_eq_some.mp found
    exact .inr ⟨(Option.some.inj same).symm, _, rfl, young⟩

/-- The reason, the age and the error of a verdict bear out its operation. -/
structure Faithful (snapshot : Snapshot) (policy : Policy) (verdict : Verdict) : Prop where
  removal : verdict.operation = .terminate ∨ verdict.operation = .deregister ∨
      verdict.operation = .delete ↔
    verdict.reason ∈ [.noTags, .keepTagMissing, .keepTagMismatch, .unguarded]
  stop : verdict.operation = .shutdown ↔ verdict.reason = .keepStateMissing
  undecided : verdict.operation = .notApplicable ↔ verdict.reason = .tagLookupFailed
  failure : verdict.reason = .tagLookupFailed ↔ ∃ message, verdict.error = some message
  overridden : verdict.ageOverridden = true ↔
    verdict.reason = .youngerThanThreshold ∨ verdict.reason = .ageUnknown
  younger : verdict.reason = .youngerThanThreshold →
    ∃ days, verdict.age = .days days ∧ days ≤ policy.maxAgeDays.toNat
  undated : verdict.reason = .ageUnknown → snapshot.createdAt = none
  aged : (∃ days, verdict.age = .days days) ↔
    AsksAge snapshot policy ∧ ∃ created, snapshot.createdAt = some created

theorem decide_faithful (snapshot : Snapshot) (policy : Policy) (now : Instant) :
    Faithful snapshot policy (decide snapshot policy now) := by
  have undecided : (decide snapshot policy now).operation = .notApplicable ↔
      (decide snapshot policy now).reason = .tagLookupFailed := by
    rw [Operation.eq_notApplicable_iff, Reason.eq_tagLookupFailed_iff]
    exact decide_reason_effect_iff (by decide) (by decide)
  constructor
  case removal =>
    rw [← Operation.Removes, Operation.removes_iff, Reason.isRemoval_iff]
    exact decide_reason_effect_iff (by decide) (by decide)
  case stop =>
    rw [Operation.eq_shutdown_iff, Reason.eq_keepStateMissing_iff]
    exact decide_reason_effect_iff (by decide) (by decide)
  case undecided => exact undecided
  case failure =>
    rw [← undecided, decide_eq_notApplicable_iff, decide_error, exists_comm]
    simp only [lookupError_iff]
  case overridden =>
    rw [Reason.isAge_iff]
    rcases decide_effect snapshot policy now with ⟨own, same⟩ | ⟨spared, reason, -⟩
    · rw [own, same]
      cases (decide snapshot policy now).operation <;> simp [Operation.effect]
    · simp [spared, reason]
  case younger =>
    intro young
    rcases decide_age_of_spared (Reason.isAge_iff.mp (.inl young)) with ⟨other, -⟩ | ⟨-, within⟩
    · rw [young] at other
      cases other
    · exact within
  case undated =>
    intro unknown
    rcases decide_age_of_spared (Reason.isAge_iff.mp (.inr unknown)) with ⟨-, absent⟩ | ⟨other, -⟩
    · exact absent
    · rw [unknown] at other
      cases other
  case aged => exact decide_age_eq_days_iff

end Rules
end Retention
