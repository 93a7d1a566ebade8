import Retention.Proofs.Expiry
import Retention.Proofs.Table

/-!
What a verdict looks at. Two resources that agree on what the rules ask for get the same verdict, whatever
else is known of them. Of a bucket the rules read all tags, and one more tag can only save it.
-/
namespace Retention

/-- Details of one kind, other than that of buckets, between which the rules see no difference. -/
inductive Details.Alike : Details → Details → Prop
  | vmInstance {type zone state volumes type' zone' state' volumes'} :
      Alike (.vmInstance type zone state volumes) (.vmInstance type' zone' state' volumes')
  | volume {state zone type size iops zone' type' size' iops'} :
      Alike (.volume zone state type size iops) (.volume zone' state type' size' iops')
  | image {name type date name' type' date'} : Alike (.image name type date) (.image name' type' date')
  | snapshot {volume size volume' size'} : Alike (.snapshot volume size) (.snapshot volume' size')
  | securityGroup {name vpc dependents vpc' dependents'} (used : dependents = [] ↔ dependents' = []) :
      Alike (.securityGroup name vpc dependents) (.securityGroup name vpc' dependents')
  | dbInstance {status type storage backups status' type' storage' backups'} :
      Alike (.dbInstance status type storage backups) (.dbInstance status' type' storage' backups')
  | dbSnapshot {type db db'} : Alike (.dbSnapshot db type) (.dbSnapshot db' type)
  | resourceGroup {location location'} : Alike (.resourceGroup location) (.resourceGroup location')

/-- Resources between which the rules see no difference. -/
structure Snapshot.Alike (a b : Snapshot) : Prop where
  details : a.details.Alike b.details
  id : a.id = b.id
  createdAt : a.createdAt = b.createdAt
  keep : a.tag? "keep" = b.tag? "keep"
  keepState : a.tag? "keep_state" = b.tag? "keep_state"

/-- The resource with one more tag, or with another value under the key. -/
def Snapshot.withTag (snapshot : Snapshot) (key value : String) : Snapshot :=
  { snapshot with tags := some ((snapshot.tags.getD .empty).insert key value) }

theorem Snapshot.Alike.kind {a b : Snapshot} (alike : a.Alike b) : a.kind = b.kind := by
  have details := alike.details
  unfold Snapshot.kind
  generalize a.details = one, b.details = other at details
  cases details <;> rfl

namespace Rules

variable {a b snapshot : Snapshot} {policy : Policy} {now : Instant}

theorem byIdentity_operation (snapshot : Snapshot) (removal : Operation) (guarded : Operation × Reason) :
    (byIdentity snapshot removal guarded).1 =
      if snapshot.tag? "keep" = some snapshot.id then guarded.1 else removal := by
  split
  · rename_i own
    rw [byIdentity_own (Snapshot.tag?_eq_some_iff.mp own)]
  · rename_i stray
    exact byIdentity_stray (fun own => stray (Snapshot.tag?_eq_some_iff.mpr own)) removal guarded

theorem byIdentity_congr (alike : a.Alike b) (removal : Operation) {guarded other : Operation × Reason}
    (same : guarded.1 = other.1) :
    (byIdentity a removal guarded).1 = (byIdentity b removal other).1 := by
  rw [byIdentity_operation, byIdentity_operation, alike.keep, alike.id, same]

theorem hasTagKey_congr (alike : a.Alike b) : a.hasTagKey keepKey = b.hasTagKey keepKey :=
  congrArg Option.isSome alike.keep

theorem byTags_resourceGroup {location : String} (group : snapshot.details = .resourceGroup location) :
    (byTags snapshot).1 = if snapshot.hasTagKey keepKey then .keep else .delete := by
  cases present : snapshot.tags with
  | none => simp [byTags, group, present, Snapshot.hasTagKey, Snapshot.tag?]
  | some tags =>
    simp only [byTags, group, present]
    split <;> simp_all

-- The reasons may differ, where one of the two has no tags and the other has tags that do not count.
theorem byTags_congr (alike : a.Alike b) : (byTags a).1 = (byTags b).1 := by
  have identity := @byIdentity_congr a b alike
  have marked := hasTagKey_congr alike
  have details := alike.details
  generalize left : a.details = one, right : b.details = other at details
  cases details with
  | vmInstance =>
    have state : a.hasTagKey keepStateKey = b.hasTagKey keepStateKey :=
      congrArg Option.isSome alike.keepState
    simp only [byTags, left, right, state]
    exact identity _ rfl
  | dbInstance =>
    have state : a.tag? keepStateKey = b.tag? keepStateKey := alike.keepState
    simp only [byTags, left, right, state]
    exact identity _ rfl
  | image | snapshot =>
    simp only [byTags, left, right]
    exact identity _ rfl
  | volume | dbSnapshot =>
    simp only [byTags, left, right]
    split
    · exact identity _ rfl
    · rfl
  | @securityGroup name vpc dependents vpc' dependents' used =>
    have empty : dependents.isEmpty = dependents'.isEmpty := by
      rw [Bool.eq_iff_iff, List.isEmpty_iff, List.isEmpty_iff, used]
    simp only [byTags, left, right, empty, marked]
  | resourceGroup => rw [byTags_resourceGroup left, byTags_resourceGroup right, marked]

theorem consultsAge_congr (alike : a.Alike b) : consultsAge a policy = consultsAge b policy := by
  have details := alike.details
  unfold consultsAge ageApplies
  generalize a.details = one, b.details = other at details
  cases details <;> rfl

theorem lookupError_congr (alike : a.Alike b) : lookupError a = lookupError b := by
  have details := alike.details
  unfold lookupError
  generalize a.details = one, b.details = other at details
  cases details <;> rfl

theorem mentionKeep_withTag {key value : String} (fresh : snapshot.tag? key = none)
    (mentioned : mentionKeep snapshot.tags = true) :
    mentionKeep (snapshot.withTag key value).tags = true := by
  rw [mentionKeep_iff] at mentioned ⊢
  obtain ⟨other, content, carried, speaks⟩ := mentioned
  refine ⟨other, content, ?_, speaks⟩
  rw [← Snapshot.tag?_eq_some_iff] at carried ⊢
  have apart : other ≠ key := by
    rintro rfl
    rw [fresh] at carried
    cases carried
  obtain ⟨tags, present, found⟩ := Option.bind_eq_some_iff.mp carried
  simp [Snapshot.withTag, Snapshot.tag?, present, Dictionary.get?_insert, apart, found]

theorem age_congr (alike : a.Alike b) : Age.since a.kind.strictDayBoundary now a.createdAt =
    Age.since b.kind.strictDayBoundary now b.createdAt := by
  rw [alike.kind, alike.createdAt]

theorem decide_operation_congr (alike : a.Alike b) :
    (decide a policy now).operation = (decide b policy now).operation := by
  rw [decide_operation, decide_operation, spared, spared, consultsAge_congr alike, age_congr alike,
    alike.kind, byTags_congr alike]

theorem decide_age_congr (alike : a.Alike b) :
    (decide a policy now).age = (decide b policy now).age := by
  rw [decide_eq, decide_eq]
  simp only [consultsAge_congr alike, age_congr alike]

theorem isDefined_congr (alike : a.Alike b) : isDefined a policy now = isDefined b policy now := by
  rw [isDefined, isDefined, consultsAge_congr alike, alike.createdAt]

theorem decide_operation_withTag {count : UInt64} (bucket : snapshot.details = .bucket count .found)
    {key value : String} (fresh : snapshot.tag? key = none) :
    (decide (snapshot.withTag key value) policy now).operation =
        (decide snapshot policy now).operation ∨
      (decide snapshot policy now).operation = .delete ∧
        (decide (snapshot.withTag key value) policy now).operation = .noOp := by
  have other : (snapshot.withTag key value).details = .bucket count .found := bucket
  rw [decide_operation_bucket bucket, decide_operation_bucket other]
  by_cases empty : count = 0
  · simp [empty]
  · cases mentioned : mentionKeep snapshot.tags with
    | true => simp [mentionKeep_withTag fresh mentioned]
    | false => cases mentionKeep (snapshot.withTag key value).tags <;> simp [empty]

/-- Outside of buckets a verdict looks at the id, the creation time, the values under two keys and what
distinguishes the details; all else may differ. A new tag on a bucket can turn a deletion into nothing, and
changes nothing otherwise. -/
theorem decide_alike :
    (∀ a b : Snapshot, a.Alike b → ∀ (policy : Policy) (now : Instant),
      (decide a policy now).operation = (decide b policy now).operation ∧
      (decide a policy now).tagOperation = (decide b policy now).tagOperation ∧
      (decide a policy now).age = (decide b policy now).age ∧
      (decide a policy now).error = (decide b policy now).error ∧
      isDefined a policy now = isDefined b policy now) ∧
    ∀ (bucket : Snapshot) (count : UInt64) (key value : String),
      bucket.details = .bucket count .found → bucket.tag? key = none →
      ∀ (policy : Policy) (now : Instant),
        (decide (bucket.withTag key value) policy now).operation =
            (decide bucket policy now).operation ∨
          (decide bucket policy now).operation = .delete ∧
            (decide (bucket.withTag key value) policy now).operation = .noOp := by
  constructor
  · intro a b alike policy now
    refine ⟨decide_operation_congr alike, ?_, decide_age_congr alike, ?_, isDefined_congr alike⟩
    · rw [decide_tagOperation, decide_tagOperation, byTags_congr alike]
    · rw [decide_error, decide_error, lookupError_congr alike]
  · intro bucket count key value found fresh policy now
    exact decide_operation_withTag found fresh

end Rules

/-- The image in another account and region, with another name and with tags that ask for nothing. -/
def Snapshot.ripeCopy : Snapshot where
  id := "ami-1"
  account := .second
  region := "eu-west-2"
  createdAt := Snapshot.ripeImage.createdAt
  tags := some (.ofList [("owner", "ops"), ("purpose", "unknown")])
  details := .image "copy" "machine" ""

def Snapshot.ownedBucket : Snapshot where
  id := "archive"
  account := .main
  region := "global"
  createdAt := none
  tags := some (.ofList [("owner", "ops")])
  details := .bucket 3 .found

/-- The copy goes with the image, and a tag for its upkeep saves the bucket. -/
theorem Rules.decide_alike_copy :
    Snapshot.ripeImage.Alike .ripeCopy ∧
    (Rules.decide .ripeCopy (.tagWithAge 1) .twoDaysLater).operation = .deregister ∧
    (Rules.decide .ripeCopy (.tagWithAge 1) .twoDaysLater).age = .days 2 ∧
    Snapshot.ownedBucket.tag? "upkeep" = none ∧
    (Rules.decide .ownedBucket .tagOnly .nextMorning).operation = .delete ∧
    (Rules.decide (Snapshot.ownedBucket.withTag "upkeep" "daily") .tagOnly .nextMorning).operation =
      .noOp := by
  have alike : Snapshot.ripeImage.Alike .ripeCopy := ⟨.image, rfl, rfl, by decide, by decide⟩
  have fresh : Snapshot.ownedBucket.tag? "upkeep" = none := by decide
  obtain ⟨operation, -, age, -⟩ :=
    Rules.decide_alike.1 .ripeImage .ripeCopy alike (.tagWithAge 1) .twoDaysLater
  have saved := (Rules.decide_alike.2 .ownedBucket 3 "upkeep" "daily" rfl fresh .tagOnly
    .nextMorning).resolve_left (by decide)
  refine ⟨alike, ?_, ?_, fresh, saved⟩
  · rw [← operation]
    decide
  · rw [← age]
    decide

end Retention
