import Retention.Proofs.Expiry
import Retention.Proofs.Table

/-!
Resources without tags. It makes no difference to what becomes of a resource whether its provider leaves
out the tags or lists none of them; the reason tells the two apart for resource groups, and for them alone.
-/
namespace Retention

/-- The resource, with its tags left out. -/
def Snapshot.untagged (snapshot : Snapshot) : Snapshot := { snapshot with tags := none }

/-- The resource, with tags listed of which there are none. -/
def Snapshot.unlabelled (snapshot : Snapshot) : Snapshot := { snapshot with tags := some ∅ }

namespace Rules

variable {snapshot : Snapshot} {policy : Policy} {now : Instant}

theorem byIdentity_of_not_hasTags (bare : snapshot.hasTags = false) (removal : Operation)
    (guarded : Operation × Reason) : byIdentity snapshot removal guarded = (removal, .noTags) := by
  simp [byIdentity, keepTag, bare]

/-- Where no tag is in force, the operation and its reason depend on the details, and for a resource group
also on whether tags are listed. -/
theorem byTags_unlabelled (snapshot : Snapshot) :
    byTags snapshot.unlabelled =
      ((byTags snapshot.untagged).1,
        if snapshot.kind = .resourceGroup then .keepTagMissing
        else (byTags snapshot.untagged).2) := by
  have absent : snapshot.untagged.hasTags = false := rfl
  have empty : snapshot.unlabelled.hasTags = false := rfl
  have unmarked (key : String) : snapshot.unlabelled.hasTagKey key = snapshot.untagged.hasTagKey key := rfl
  have silent : mentionKeep snapshot.unlabelled.tags = mentionKeep snapshot.untagged.tags := rfl
  have details : snapshot.unlabelled.details = snapshot.untagged.details := rfl
  have kind : snapshot.kind = snapshot.untagged.details.kind := rfl
  unfold byTags
  rw [details, kind]
  cases snapshot.untagged.details with
  | vmInstance | dbInstance | image | snapshot =>
    simp [byIdentity_of_not_hasTags absent, byIdentity_of_not_hasTags empty, Details.kind]
  | volume | dbSnapshot =>
    simp only [byIdentity_of_not_hasTags absent, byIdentity_of_not_hasTags empty, Details.kind]
    split <;> rfl
  | securityGroup =>
    simp only [unmarked, Details.kind]
    rfl
  | bucket count lookup =>
    simp only [silent, Details.kind]
    rfl
  | resourceGroup => rfl

theorem sparing_unlabelled (snapshot : Snapshot) (policy : Policy) (now : Instant) :
    sparing snapshot.unlabelled policy now = sparing snapshot.untagged policy now := rfl

/-- Resource groups have no age. -/
theorem sparing_of_resourceGroup (group : snapshot.kind = .resourceGroup) :
    sparing snapshot policy now = none := by
  have ageless : ¬ AsksAge snapshot policy := by
    intro asked
    have aged := asked.2.1
    simp [group, agedKinds] at aged
  rw [sparing, if_neg (mt consultsAge_iff.mp ageless)]

theorem decide_reason_of_resourceGroup (group : snapshot.kind = .resourceGroup) :
    (decide snapshot policy now).reason = (byTags snapshot).2 := by
  rw [decide_eq, sparing_of_resourceGroup group]
  simp

theorem decide_untagged_reason (group : snapshot.kind = .resourceGroup) :
    (decide snapshot.untagged policy now).reason = .noTags := by
  have same : snapshot.untagged.kind = .resourceGroup := group
  rw [decide_reason_of_resourceGroup same]
  unfold Snapshot.kind at same
  unfold byTags
  cases details : snapshot.untagged.details <;> simp [details, Details.kind] at same
  rfl

theorem decide_unlabelled_reason (snapshot : Snapshot) (policy : Policy) (now : Instant) :
    (decide snapshot.unlabelled policy now).reason =
      if snapshot.kind = .resourceGroup then .keepTagMissing
      else (decide snapshot.untagged policy now).reason := by
  split
  · rename_i group
    have same : snapshot.unlabelled.kind = .resourceGroup := group
    rw [decide_reason_of_resourceGroup same, byTags_unlabelled, if_pos group]
  · rename_i other
    rw [decide_eq, decide_eq, byTags_unlabelled, if_neg other, sparing_unlabelled]
    rfl

/-- A verdict without tags is the same, whether the tags are left out or none are listed, apart from the
copy of the tags. Of a resource group, and of nothing else, it also has another reason. -/
theorem decide_unlabelled (snapshot : Snapshot) (policy : Policy) (now : Instant) :
    decide snapshot.unlabelled policy now =
      { decide snapshot.untagged policy now with
        tags := some ∅
        reason :=
          if snapshot.kind = .resourceGroup then .keepTagMissing
          else (decide snapshot.untagged policy now).reason } ∧
    (decide snapshot.untagged policy now).tags = none ∧
    ((decide snapshot.unlabelled policy now).reason = (decide snapshot.untagged policy now).reason ↔
      snapshot.kind ≠ .resourceGroup) ∧
    isDefined snapshot.unlabelled policy now = isDefined snapshot.untagged policy now := by
  refine ⟨?_, ?_, ?_, rfl⟩
  · rw [← decide_unlabelled_reason, decide_eq snapshot.unlabelled, decide_eq snapshot.untagged,
      byTags_unlabelled]
    rfl
  · rw [decide_eq]
    rfl
  · rw [decide_unlabelled_reason]
    by_cases group : snapshot.kind = .resourceGroup
    · simp [group, decide_untagged_reason group]
    · simp [group]

/-- A resource group of which nothing is known but its place. -/
def groupOfWest : Snapshot where
  id := "rg-1"
  account := .main
  region := "global"
  createdAt := none
  tags := none
  details := .resourceGroup "westeurope"

/-- The group goes in both cases, and not for the same reason. -/
theorem untagged_group_told_apart :
    (decide groupOfWest.untagged .tagOnly .twoDaysLater).operation = .delete ∧
    (decide groupOfWest.unlabelled .tagOnly .twoDaysLater).operation = .delete ∧
    (decide groupOfWest.untagged .tagOnly .twoDaysLater).reason = .noTags ∧
    (decide groupOfWest.unlabelled .tagOnly .twoDaysLater).reason = .keepTagMissing := by
  decide

end Rules
end Retention
