import Retention.Proofs.Tags

/-!
The two stages of a verdict. The tags settle an operation, and an age can only take it back: it turns the
operation into the one that retains a resource of the kind, which changes nothing.
-/
namespace Retention
namespace Operation

/-- Operations after which the resource is gone. -/
def Removes (operation : Operation) : Prop :=
  operation = .terminate ∨ operation = .deregister ∨ operation = .delete

end Operation

namespace Rules

variable {snapshot : Snapshot} {policy : Policy} {now : Instant}

/-- The age of the resource is consulted, and spares it. -/
def spared (snapshot : Snapshot) (policy : Policy) (now : Instant) : Bool :=
  consultsAge snapshot policy &&
    (spares policy (Age.since snapshot.kind.strictDayBoundary now snapshot.createdAt)).isSome

@[simp] theorem isMutating_retainOperation (kind : Kind) :
    kind.retainOperation.isMutating = false := by
  cases kind <;> rfl

/-- The reason for which the age spares the resource, where it is consulted and does. -/
def sparing (snapshot : Snapshot) (policy : Policy) (now : Instant) : Option Reason :=
  if consultsAge snapshot policy then
    spares policy (Age.since snapshot.kind.strictDayBoundary now snapshot.createdAt)
  else none

theorem spared_eq (snapshot : Snapshot) (policy : Policy) (now : Instant) :
    spared snapshot policy now = (sparing snapshot policy now).isSome := by
  unfold spared sparing
  cases consultsAge snapshot policy <;> rfl

/-- All that a verdict holds. A resource that is retained in any case keeps the reason of its tags. -/
theorem decide_eq (snapshot : Snapshot) (policy : Policy) (now : Instant) :
    decide snapshot policy now =
      { operation :=
          if spared snapshot policy now then snapshot.kind.retainOperation
          else (byTags snapshot).1
        tagOperation := (byTags snapshot).1
        reason :=
          if (byTags snapshot).1 = snapshot.kind.retainOperation then (byTags snapshot).2
          else (sparing snapshot policy now).getD (byTags snapshot).2
        age :=
          if consultsAge snapshot policy then
            Age.since snapshot.kind.strictDayBoundary now snapshot.createdAt
          else .unknown
        tags := snapshot.tags
        error := lookupError snapshot } := by
  unfold decide spared sparing
  cases consulted : consultsAge snapshot policy with
  | false => simp
  | true =>
    cases found : spares policy
        (Age.since snapshot.kind.strictDayBoundary now snapshot.createdAt) with
    | none => simp [found]
    | some reason =>
      by_cases retained : (byTags snapshot).1 = snapshot.kind.retainOperation <;>
        simp [found, retained]

theorem decide_operation (snapshot : Snapshot) (policy : Policy) (now : Instant) :
    (decide snapshot policy now).operation =
      if spared snapshot policy now then snapshot.kind.retainOperation
      else (byTags snapshot).1 := by
  rw [decide_eq]

theorem decide_tagOperation (snapshot : Snapshot) (policy : Policy) (now : Instant) :
    (decide snapshot policy now).tagOperation = (byTags snapshot).1 := by
  rw [decide_eq]

theorem decide_error (snapshot : Snapshot) (policy : Policy) (now : Instant) :
    (decide snapshot policy now).error = lookupError snapshot := by
  rw [decide_eq]

/-- Whatever is carried out is what the tags ask for. -/
theorem decide_operation_of_isMutating
    (mutating : (decide snapshot policy now).operation.isMutating = true) :
    (decide snapshot policy now).operation = (byTags snapshot).1 := by
  rw [decide_operation] at mutating ⊢
  split
  · rename_i spared
    simp [spared] at mutating
  · rfl

theorem decide_error_of_isMutating
    (mutating : (decide snapshot policy now).operation.isMutating = true) :
    (decide snapshot policy now).error = none := by
  rw [decide_operation_of_isMutating mutating] at mutating
  rw [decide_error]
  unfold lookupError
  split
  · rename_i failed
    simp [byTags, failed, Operation.isMutating] at mutating
  · rfl

theorem keptOrShutdown_not_removes (keepsState : Bool) :
    ¬ (keptOrShutdown keepsState).1.Removes := by
  cases keepsState <;> simp [keptOrShutdown, Operation.Removes]

theorem byIdentity_of_matchesId (own : keepTag snapshot = .matchesId) (removal : Operation)
    (guarded : Operation × Reason) : byIdentity snapshot removal guarded = guarded := by
  simp [byIdentity, own]

theorem keepTag_of_tag? (own : snapshot.tag? keepKey = some snapshot.id) :
    keepTag snapshot = .matchesId := by
  obtain ⟨tags, present, found⟩ := Option.bind_eq_some_iff.mp own
  have filled : snapshot.hasTags = true := by
    have member := Dictionary.mem_of_get? found
    unfold Snapshot.hasTags
    cases empty : tags.entries with
    | nil => simp [empty] at member
    | cons entry rest => simp [present, Dictionary.isEmpty, empty]
  simp [keepTag, filled, own]

/-- A resource that carries its own id is never removed, at most stopped. -/
theorem byTags_not_removes (own : keepTag snapshot = .matchesId)
    (kept : snapshot.kind.hasAgePolicy = true) : ¬ (byTags snapshot).1.Removes := by
  have guarded := byIdentity_of_matchesId own
  have spared : ¬ Operation.keep.Removes ∧ ¬ Operation.ignore.Removes := by
    simp [Operation.Removes]
  unfold byTags
  split
  case h_1 | h_2 =>
    rw [guarded]
    exact keptOrShutdown_not_removes _
  case h_3 =>
    split
    · rw [guarded]
      exact spared.1
    · exact spared.1
  case h_4 | h_5 =>
    rw [guarded]
    exact spared.1
  case h_6 =>
    split
    · rw [guarded]
      exact spared.2
    · exact spared.2
  case h_7 _ _ _ same | h_8 _ _ same | h_9 _ same =>
    simp [Snapshot.kind, same, Details.kind, Kind.hasAgePolicy] at kept

/-- A security group goes only where nothing uses it, nothing keeps it and it is not the default one. -/
theorem isMutating_byTags_securityGroup {name : String} {vpcId : Option String}
    {attachedInstances : List String}
    (group : snapshot.details = .securityGroup name vpcId attachedInstances) :
    (byTags snapshot).1.isMutating = true ↔
      attachedInstances = [] ∧ snapshot.hasTagKey keepKey = false ∧ name ≠ "default" := by
  cases attachedInstances with
  | cons one others => simp [byTags, group, Operation.isMutating]
  | nil =>
    cases kept : snapshot.hasTagKey keepKey with
    | true => simp [byTags, group, kept, Operation.isMutating]
    | false =>
      by_cases default : name = "default" <;>
        simp [byTags, group, kept, default, Operation.isMutating]

/-- A bucket whose tags were found is deleted unless it is empty or its tags speak of keeping. -/
theorem decide_operation_bucket {count : UInt64} (bucket : snapshot.details = .bucket count .found) :
    (decide snapshot policy now).operation =
      if count = 0 then .noOp else if mentionKeep snapshot.tags then .noOp else .delete := by
  have ageless : spared snapshot policy now = false := by
    simp [spared, consultsAge, ageApplies, bucket, Details.kind, Kind.hasAgePolicy]
  rw [decide_operation, ageless]
  simp only [Bool.false_eq_true, if_false, byTags, bucket]
  split
  · rfl
  · split
    · rfl
    · rfl

/-- The age of the resource passes the threshold between the two instants. -/
def Ripens (snapshot : Snapshot) (policy : Policy) (earlier later : Instant) : Prop :=
  consultsAge snapshot policy = true ∧ ∃ created, snapshot.createdAt = some created ∧
    Age.wholeDays snapshot.kind.strictDayBoundary created earlier ≤ policy.maxAgeDays.toNat ∧
    policy.maxAgeDays.toNat < Age.wholeDays snapshot.kind.strictDayBoundary created later

/-- Of what is not spared later, only that has been spared earlier whose age passed the threshold. -/
theorem spared_iff_ripens {earlier later : Instant} (due : spared snapshot policy later = false) :
    spared snapshot policy earlier = true ↔ Ripens snapshot policy earlier later := by
  unfold spared Ripens at *
  cases consulted : consultsAge snapshot policy with
  | false => simp
  | true =>
    cases birth : snapshot.createdAt with
    | none => simp [consulted, birth, Age.since, spares] at due
    | some created =>
      simp only [consulted, birth, Age.since, spares, Bool.true_and] at due ⊢
      have old : policy.maxAgeDays.toNat <
          Age.wholeDays snapshot.kind.strictDayBoundary created later := by
        by_contra young
        simp [Nat.not_lt.mp young] at due
      by_cases young : Age.wholeDays snapshot.kind.strictDayBoundary created earlier ≤
          policy.maxAgeDays.toNat <;> simp [young, old]

theorem not_spared_of_isMutating
    (mutating : (decide snapshot policy now).operation.isMutating = true) :
    spared snapshot policy now = false := by
  rw [decide_operation] at mutating
  cases old : spared snapshot policy now with
  | false => rfl
  | true => simp [old] at mutating

end Rules
end Retention
