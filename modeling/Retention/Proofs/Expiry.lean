import Retention.Proofs.Ages
import Retention.Proofs.Verdict
import Retention.Time.Timestamp

/-!
Expiry. What is to be removed stays so, with the same operation and for the same reason: as time goes on,
and under every policy that spares no more.
-/
namespace Retention

/-- Policies that spare no more than the given one. -/
inductive Policy.AtMost (policy : Policy) : Policy → Prop
  | same : AtMost policy policy
  | tagsAlone {other : Policy} (mode : other.mode = .tagOnly) : AtMost policy other
  | lower {other : Policy} (aged : policy.mode = .tagWithAge) (mode : other.mode = .tagWithAge)
      (bound : other.maxAgeDays ≤ policy.maxAgeDays) : AtMost policy other

namespace Rules

variable {snapshot : Snapshot} {policy other : Policy} {now earlier later : Instant}

theorem consultsAge_of_atMost (less : policy.AtMost other)
    (consulted : consultsAge snapshot other = true) :
    consultsAge snapshot policy = true ∧ other.maxAgeDays.toNat ≤ policy.maxAgeDays.toNat := by
  cases less with
  | same => exact ⟨consulted, Nat.le_refl _⟩
  | tagsAlone mode => simp [consultsAge, mode] at consulted
  | lower aged mode bound =>
    refine ⟨?_, UInt64.le_iff_toNat_le.mp bound⟩
    simpa [consultsAge, aged, mode] using consulted

/-- What is spared later, or by less, has been spared before. -/
theorem spared_of_later (order : earlier.unixNanos ≤ later.unixNanos) (less : policy.AtMost other)
    (still : spared snapshot other later = true) : spared snapshot policy earlier = true := by
  obtain ⟨consulted, sparing⟩ := (Bool.and_eq_true _ _).mp still
  obtain ⟨before, bound⟩ := consultsAge_of_atMost less consulted
  refine (Bool.and_eq_true _ _).mpr ⟨before, ?_⟩
  cases birth : snapshot.createdAt with
  | none => rfl
  | some created =>
    have grown := Age.wholeDays_mono snapshot.kind.strictDayBoundary (Int.le_refl created.unixNanos) order
    simp only [birth, Age.since, spares, Option.isSome_ite] at sparing ⊢
    exact (grown.trans sparing).trans bound

theorem decide_reason_of_isMutating
    (mutating : (decide snapshot policy now).operation.isMutating = true) :
    (decide snapshot policy now).reason = (byTags snapshot).2 := by
  have due := not_spared_of_isMutating mutating
  rw [spared_eq, Option.isSome_eq_false_iff, Option.isNone_iff_eq_none] at due
  simp [decide_eq, due]

theorem decide_operation_of_later (order : earlier.unixNanos ≤ later.unixNanos)
    (less : policy.AtMost other)
    (mutating : (decide snapshot policy earlier).operation.isMutating = true) :
    (decide snapshot other later).operation = (decide snapshot policy earlier).operation := by
  have due : spared snapshot other later ≠ true := fun still => by
    have before := spared_of_later order less still
    rw [not_spared_of_isMutating mutating] at before
    cases before
  rw [decide_operation_of_isMutating mutating, decide_operation, if_neg due]

theorem isDefined_of_later (less : policy.AtMost other)
    (defined : isDefined snapshot policy earlier = true) (dated : later.hasUtcDate = true) :
    isDefined snapshot other later = true := by
  unfold isDefined at *
  cases consulted : consultsAge snapshot other with
  | false => rfl
  | true =>
    have before := (consultsAge_of_atMost less consulted).1
    cases birth : snapshot.createdAt with
    | none => rfl
    | some created =>
      simp only [before, birth, Age.isDefined, Bool.not_true, Bool.false_or, Bool.and_eq_true]
        at defined ⊢
      exact ⟨dated, defined.2⟩

/-- What is to be removed stays so, for the same reason, and there is a verdict on it at every later
moment that has a UTC date. So what is retained later, or by a policy that spares less, has been retained
before. -/
theorem expiry_monotone (order : earlier.unixNanos ≤ later.unixNanos) (less : policy.AtMost other) :
    ((decide snapshot policy earlier).operation.isMutating = true →
      (decide snapshot other later).operation = (decide snapshot policy earlier).operation ∧
      (decide snapshot other later).reason = (decide snapshot policy earlier).reason) ∧
    ((decide snapshot other later).operation.isMutating = false →
      (decide snapshot policy earlier).operation.isMutating = false) ∧
    (isDefined snapshot policy earlier = true → later.hasUtcDate = true →
      isDefined snapshot other later = true) := by
  refine ⟨fun mutating => ?_, fun retained => ?_, isDefined_of_later less⟩
  · have same := decide_operation_of_later order less mutating
    refine ⟨same, ?_⟩
    rw [decide_reason_of_isMutating mutating, decide_reason_of_isMutating (same ▸ mutating)]
  · cases mutating : (decide snapshot policy earlier).operation.isMutating with
    | false => rfl
    | true =>
      rw [decide_operation_of_later order less mutating, mutating] at retained
      cases retained

end Rules

/-- An image of unknown purpose, of the afternoon of 13 June 2024. -/
def Snapshot.ripeImage : Snapshot where
  id := "ami-1"
  account := .main
  region := "us-east-1"
  createdAt := Timestamp.internet? "2024-06-13T14:00:00Z".toList
  tags := none
  details := .image "base" "machine" "2024-06-13T14:00:00Z"

/-- Two days later to the second, told in the time of another zone. -/
def Instant.twoDaysLater : Instant :=
  (Timestamp.internet? "2024-06-15T19:30:00+05:30".toList).get (by decide)

def Instant.nextMorning : Instant :=
  (Timestamp.internet? "2024-06-16T06:00:00Z".toList).get (by decide)

/-- The image has passed a threshold of one day, and in the morning it has passed none as well. -/
theorem Rules.expiry_monotone_image :
    Instant.twoDaysLater.unixNanos ≤ Instant.nextMorning.unixNanos ∧
    (Policy.tagWithAge 1).AtMost (.tagWithAge 0) ∧
    (Rules.decide .ripeImage (.tagWithAge 1) .twoDaysLater).operation = .deregister ∧
    (Rules.decide .ripeImage (.tagWithAge 0) .nextMorning).operation = .deregister ∧
    (Rules.decide .ripeImage (.tagWithAge 0) .nextMorning).reason =
      (Rules.decide .ripeImage (.tagWithAge 1) .twoDaysLater).reason ∧
    Rules.isDefined .ripeImage (.tagWithAge 0) .nextMorning = true := by
  have order : Instant.twoDaysLater.unixNanos ≤ Instant.nextMorning.unixNanos := by decide
  have less : (Policy.tagWithAge 1).AtMost (.tagWithAge 0) := .lower rfl rfl (by decide)
  have early : (Rules.decide .ripeImage (.tagWithAge 1) .twoDaysLater).operation = .deregister := by
    decide
  have laws := @Rules.expiry_monotone .ripeImage _ _ _ _ order less
  have same := laws.1 (by rw [early]; rfl)
  exact ⟨order, less, early, same.1.trans early, same.2, laws.2.2 (by decide) (by decide)⟩

end Retention
