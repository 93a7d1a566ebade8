import Retention.Proofs.Ages
import Retention.Proofs.Verdict

/-!
The retention table. Its rows speak of the tags and the state of a resource and of nothing the rules
compute, and its threshold is one on moments and days. A verdict is what the table says.
-/
namespace Retention

/-- One of the tags of the resource. -/
def Snapshot.Carries (snapshot : Snapshot) (key value : String) : Prop :=
  ∃ tags, snapshot.tags = some tags ∧ (key, value) ∈ tags.entries

namespace Snapshot

variable {snapshot : Snapshot} {key value : String}

theorem tag?_eq_some_iff : snapshot.tag? key = some value ↔ snapshot.Carries key value := by
  constructor
  · intro found
    obtain ⟨tags, present, inside⟩ := Option.bind_eq_some_iff.mp found
    exact ⟨tags, present, Dictionary.mem_of_get? inside⟩
  · intro carries
    obtain ⟨tags, present, inside⟩ := carries
    exact Option.bind_eq_some_iff.mpr ⟨tags, present, Dictionary.get?_of_mem inside⟩

theorem hasTagKey_iff : snapshot.hasTagKey key = true ↔ ∃ value, snapshot.Carries key value := by
  simp only [hasTagKey, Option.isSome_iff_exists, tag?_eq_some_iff]

theorem hasTagKey_eq_false (none : ∀ value, ¬ snapshot.Carries key value) :
    snapshot.hasTagKey key = false := by
  rw [← Bool.not_eq_true, hasTagKey_iff]
  rintro ⟨value, carries⟩
  exact none value carries

end Snapshot

namespace Rules

/-- The tag `keep` has the id of the resource as its value. -/
def KeepsItself (snapshot : Snapshot) : Prop := snapshot.Carries "keep" snapshot.id

/-- Some key or some value among the tags holds the word `keep`. -/
def SpeaksOfKeeping (snapshot : Snapshot) : Prop :=
  ∃ key value, snapshot.Carries key value ∧
    ("keep".toList <:+: key.toList ∨ "keep".toList <:+: value.toList)

/-- The rows of the table: what is to be done with a resource of given details. -/
inductive Tabled (snapshot : Snapshot) : Details → Operation → Prop
  | keptInstance {type zone state volumes value} (own : KeepsItself snapshot)
      (kept : snapshot.Carries "keep_state" value) :
      Tabled snapshot (.vmInstance type zone state volumes) .keep
  | idleInstance {type zone state volumes} (own : KeepsItself snapshot)
      (idle : ∀ value, ¬ snapshot.Carries "keep_state" value) :
      Tabled snapshot (.vmInstance type zone state volumes) .shutdown
  | strayInstance {type zone state volumes} (stray : ¬ KeepsItself snapshot) :
      Tabled snapshot (.vmInstance type zone state volumes) .terminate
  | keptDbInstance {status type storage backups value} (own : KeepsItself snapshot)
      (kept : snapshot.Carries "keep_state" value) (filled : value ≠ "") :
      Tabled snapshot (.dbInstance status type storage backups) .keep
  | idleDbInstance {status type storage backups} (own : KeepsItself snapshot)
      (idle : ∀ value, snapshot.Carries "keep_state" value → value = "") :
      Tabled snapshot (.dbInstance status type storage backups) .shutdown
  | strayDbInstance {status type storage backups} (stray : ¬ KeepsItself snapshot) :
      Tabled snapshot (.dbInstance status type storage backups) .terminate
  | keptVolume {zone state type size iops} (kept : state ≠ "available" ∨ KeepsItself snapshot) :
      Tabled snapshot (.volume zone state type size iops) .keep
  | strayVolume {zone type size iops} (stray : ¬ KeepsItself snapshot) :
      Tabled snapshot (.volume zone "available" type size iops) .terminate
  | keptImage {name type date} (own : KeepsItself snapshot) :
      Tabled snapshot (.image name type date) .keep
  | strayImage {name type date} (stray : ¬ KeepsItself snapshot) :
      Tabled snapshot (.image name type date) .deregister
  | keptSnapshot {volume size} (own : KeepsItself snapshot) :
      Tabled snapshot (.snapshot volume size) .keep
  | straySnapshot {volume size} (stray : ¬ KeepsItself snapshot) :
      Tabled snapshot (.snapshot volume size) .delete
  | keptDbSnapshot {db type} (kept : type ≠ "manual" ∨ KeepsItself snapshot) :
      Tabled snapshot (.dbSnapshot db type) .ignore
  | strayDbSnapshot {db} (stray : ¬ KeepsItself snapshot) :
      Tabled snapshot (.dbSnapshot db "manual") .delete
  | usedGroup {name vpc dependent dependents} :
      Tabled snapshot (.securityGroup name vpc (dependent :: dependents)) .noOp
  | keptGroup {name vpc dependents value} (kept : snapshot.Carries "keep" value) :
      Tabled snapshot (.securityGroup name vpc dependents) .noOp
  | defaultGroup {vpc dependents} :
      Tabled snapshot (.securityGroup "default" vpc dependents) .noOp
  | strayGroup {name vpc} (stray : ∀ value, ¬ snapshot.Carries "keep" value)
      (other : name ≠ "default") :
      Tabled snapshot (.securityGroup name vpc []) .delete
  | unreadableBucket {count message} :
      Tabled snapshot (.bucket count (.failed message)) .notApplicable
  | emptyBucket {lookup} (read : ∀ message, lookup ≠ .failed message) :
      Tabled snapshot (.bucket 0 lookup) .noOp
  | keptBucket {count} (kept : SpeaksOfKeeping snapshot) :
      Tabled snapshot (.bucket count .found) .noOp
  | strayBucket {count lookup} (filled : count ≠ 0) (read : ∀ message, lookup ≠ .failed message)
      (stray : lookup = .found → ¬ SpeaksOfKeeping snapshot) :
      Tabled snapshot (.bucket count lookup) .delete
  | keptResourceGroup {location value} (kept : snapshot.Carries "keep" value) :
      Tabled snapshot (.resourceGroup location) .keep
  | strayResourceGroup {location} (stray : ∀ value, ¬ snapshot.Carries "keep" value) :
      Tabled snapshot (.resourceGroup location) .delete

/-- The kinds whose resources age. -/
def agedKinds : List Kind := [.vmInstance, .volume, .image, .snapshot, .dbInstance, .dbSnapshot]

/-- The age of a resource is asked for. -/
def AsksAge (snapshot : Snapshot) (policy : Policy) : Prop :=
  policy.mode = .tagWithAge ∧ snapshot.kind ∈ agedKinds ∧
    ∀ zone state type size iops, snapshot.details = .volume zone state type size iops →
      state = "available"

/-- Since its creation there have not been more than so many days: periods of 24 hours for an image, and
for every other kind changes of the UTC date. -/
def WithinDays (kind : Kind) (days : Nat) (created now : Instant) : Prop :=
  if kind = .image then
    now.unixNanos - created.unixNanos < (days + 1) * Instant.nanosPerDay
  else now.utcDay - created.utcDay ≤ days

/-- What a verdict has to be according to the table. A resource of which no creation time is known is
retained like a young one. -/
structure Agrees (snapshot : Snapshot) (policy : Policy) (now : Instant) (verdict : Verdict) :
    Prop where
  byTags : ∀ operation, Tabled snapshot snapshot.details operation ↔ verdict.tagOperation = operation
  retained : AsksAge snapshot policy →
    (∀ created, snapshot.createdAt = some created →
      WithinDays snapshot.kind policy.maxAgeDays.toNat created now) →
    verdict.operation =
      if snapshot.kind = .dbInstance ∨ snapshot.kind = .dbSnapshot then .ignore else .keep
  expired : ∀ created, snapshot.createdAt = some created →
    ¬ WithinDays snapshot.kind policy.maxAgeDays.toNat created now →
    verdict.operation = verdict.tagOperation
  ageless : ¬ AsksAge snapshot policy → verdict.operation = verdict.tagOperation
  lookup : ∀ message, verdict.error = some message ↔
    ∃ count, snapshot.details = .bucket count (.failed message)

variable {snapshot : Snapshot} {policy : Policy} {now : Instant}

theorem byIdentity_own (own : KeepsItself snapshot) (removal : Operation)
    (guarded : Operation × Reason) : byIdentity snapshot removal guarded = guarded :=
  byIdentity_of_matchesId (keepTag_of_tag? (Snapshot.tag?_eq_some_iff.mpr own)) removal guarded

theorem byIdentity_stray (stray : ¬ KeepsItself snapshot) (removal : Operation)
    (guarded : Operation × Reason) : (byIdentity snapshot removal guarded).1 = removal := by
  have other : keepTag snapshot ≠ .matchesId := by
    intro own
    unfold keepTag at own
    split at own
    · cases own
    · split at own
      · cases own
      · rename_i value found
        split at own
        · rename_i same
          exact stray (Snapshot.tag?_eq_some_iff.mp (same ▸ found))
        · cases own
  unfold byIdentity
  split <;> first | rfl | contradiction

theorem mentionKeep_iff : mentionKeep snapshot.tags = true ↔ SpeaksOfKeeping snapshot := by
  unfold SpeaksOfKeeping Snapshot.Carries
  cases snapshot.tags with
  | none => simp [mentionKeep]
  | some tags => simp [mentionKeep, Text.contains_iff, keepKey]

/-- What the rules make of the tags is the operation of the row. -/
theorem Tabled.byTags_eq {details : Details} {operation : Operation}
    (row : Tabled snapshot details operation) (same : snapshot.details = details) :
    (byTags snapshot).1 = operation := by
  cases row with
  | keptInstance own kept =>
    have marked := Snapshot.hasTagKey_iff.mpr ⟨_, kept⟩
    simp [byTags, same, byIdentity_own own, keptOrShutdown, keepStateKey, marked]
  | idleInstance own idle =>
    have unmarked := Snapshot.hasTagKey_eq_false idle
    simp [byTags, same, byIdentity_own own, keptOrShutdown, keepStateKey, unmarked]
  | strayInstance stray | strayDbInstance stray | strayVolume stray | strayImage stray
  | straySnapshot stray | strayDbSnapshot stray =>
    simp [byTags, same, byIdentity_stray stray]
  | keptDbInstance own kept filled =>
    have marked := Snapshot.tag?_eq_some_iff.mpr kept
    simp [byTags, same, byIdentity_own own, keptOrShutdown, keepStateKey, marked, filled]
  | idleDbInstance own idle =>
    have unmarked : (snapshot.tag? "keep_state").any (fun value => !value.isEmpty) = false := by
      cases found : snapshot.tag? "keep_state" with
      | none => rfl
      | some value => simp [idle value (Snapshot.tag?_eq_some_iff.mp found)]
    simp [byTags, same, byIdentity_own own, keptOrShutdown, keepStateKey, unmarked]
  | @keptVolume _ state _ _ _ kept =>
    by_cases available : state = "available"
    · have own := kept.resolve_left (not_not_intro available)
      simp [byTags, same, byIdentity_own own, available]
    · simp [byTags, same, available]
  | keptImage own | keptSnapshot own => simp [byTags, same, byIdentity_own own]
  | @keptDbSnapshot _ type kept =>
    by_cases manual : type = "manual"
    · have own := kept.resolve_left (not_not_intro manual)
      simp [byTags, same, byIdentity_own own, manual]
    · simp [byTags, same, manual]
  | usedGroup | unreadableBucket => simp [byTags, same]
  | @keptGroup _ _ dependents _ kept =>
    have marked : snapshot.hasTagKey keepKey = true := Snapshot.hasTagKey_iff.mpr ⟨_, kept⟩
    cases dependents <;> simp [byTags, same, marked]
  | @defaultGroup _ dependents =>
    cases dependents <;> cases marked : snapshot.hasTagKey keepKey <;> simp [byTags, same, marked]
  | strayGroup stray other =>
    have unmarked : snapshot.hasTagKey keepKey = false := Snapshot.hasTagKey_eq_false stray
    simp [byTags, same, unmarked, other]
  | @emptyBucket lookup read =>
    cases lookup with
    | failed message => exact absurd rfl (read message)
    | found | noTagSet => simp [byTags, same]
  | @keptBucket count kept =>
    have speaks := mentionKeep_iff.mpr kept
    by_cases empty : count = 0 <;> simp [byTags, same, empty, speaks]
  | @strayBucket count lookup filled read stray =>
    cases lookup with
    | failed message => exact absurd rfl (read message)
    | noTagSet => simp [byTags, same, filled]
    | found =>
      have silent : mentionKeep snapshot.tags = false := by
        rw [← Bool.not_eq_true, mentionKeep_iff]
        exact stray rfl
      simp [byTags, same, filled, silent]
  | keptResourceGroup kept =>
    obtain ⟨tags, present, inside⟩ := kept
    have marked : snapshot.hasTagKey keepKey = true :=
      Snapshot.hasTagKey_iff.mpr ⟨_, tags, present, inside⟩
    simp [byTags, same, present, marked]
  | strayResourceGroup stray =>
    have unmarked : snapshot.hasTagKey keepKey = false := Snapshot.hasTagKey_eq_false stray
    cases present : snapshot.tags <;> simp [byTags, same, present, unmarked]

private theorem exists_tabled_bucket (snapshot : Snapshot) (count : UInt64) (lookup : TagLookup) :
    ∃ operation, Tabled snapshot (.bucket count lookup) operation := by
  cases lookup with
  | failed message => exact ⟨_, .unreadableBucket⟩
  | noTagSet =>
    by_cases empty : count = 0
    · subst empty
      exact ⟨_, .emptyBucket (by simp)⟩
    · exact ⟨_, .strayBucket empty (by simp) (by simp)⟩
  | found =>
    by_cases kept : SpeaksOfKeeping snapshot
    · exact ⟨_, .keptBucket kept⟩
    · by_cases empty : count = 0
      · subst empty
        exact ⟨_, .emptyBucket (by simp)⟩
      · exact ⟨_, .strayBucket empty (by simp) fun _ => kept⟩

theorem exists_tabled (snapshot : Snapshot) (details : Details) :
    ∃ operation, Tabled snapshot details operation := by
  cases details with
  | bucket count lookup => exact exists_tabled_bucket snapshot count lookup
  | vmInstance =>
    by_cases own : KeepsItself snapshot
    · by_cases kept : ∃ value, snapshot.Carries "keep_state" value
      · exact ⟨_, .keptInstance own kept.choose_spec⟩
      · exact ⟨_, .idleInstance own (not_exists.mp kept)⟩
    · exact ⟨_, .strayInstance own⟩
  | dbInstance =>
    by_cases own : KeepsItself snapshot
    · by_cases kept : ∃ value, snapshot.Carries "keep_state" value ∧ value ≠ ""
      · exact ⟨_, .keptDbInstance own kept.choose_spec.1 kept.choose_spec.2⟩
      · exact ⟨_, .idleDbInstance own (by simpa using kept)⟩
    · exact ⟨_, .strayDbInstance own⟩
  | volume zone state =>
    by_cases kept : state ≠ "available" ∨ KeepsItself snapshot
    · exact ⟨_, .keptVolume kept⟩
    · obtain ⟨available, stray⟩ := not_or.mp kept
      cases of_not_not available
      exact ⟨_, .strayVolume stray⟩
  | image =>
    by_cases own : KeepsItself snapshot
    · exact ⟨_, .keptImage own⟩
    · exact ⟨_, .strayImage own⟩
  | snapshot =>
    by_cases own : KeepsItself snapshot
    · exact ⟨_, .keptSnapshot own⟩
    · exact ⟨_, .straySnapshot own⟩
  | dbSnapshot db type =>
    by_cases kept : type ≠ "manual" ∨ KeepsItself snapshot
    · exact ⟨_, .keptDbSnapshot kept⟩
    · obtain ⟨manual, stray⟩ := not_or.mp kept
      cases of_not_not manual
      exact ⟨_, .strayDbSnapshot stray⟩
  | securityGroup name vpc dependents =>
    by_cases kept : ∃ value, snapshot.Carries "keep" value
    · exact ⟨_, .keptGroup kept.choose_spec⟩
    · by_cases default : name = "default"
      · subst default
        exact ⟨_, .defaultGroup⟩
      · cases dependents with
        | cons dependent others => exact ⟨_, .usedGroup⟩
        | nil => exact ⟨_, .strayGroup (not_exists.mp kept) default⟩
  | resourceGroup =>
    by_cases kept : ∃ value, snapshot.Carries "keep" value
    · exact ⟨_, .keptResourceGroup kept.choose_spec⟩
    · exact ⟨_, .strayResourceGroup (not_exists.mp kept)⟩

theorem tabled_iff {operation : Operation} :
    Tabled snapshot snapshot.details operation ↔ (byTags snapshot).1 = operation := by
  constructor
  · exact fun row => row.byTags_eq rfl
  · intro chosen
    obtain ⟨other, row⟩ := exists_tabled snapshot snapshot.details
    rwa [← chosen, row.byTags_eq rfl]

theorem consultsAge_iff : consultsAge snapshot policy = true ↔ AsksAge snapshot policy := by
  unfold consultsAge AsksAge ageApplies Snapshot.kind
  cases snapshot.details with
  | volume zone state type size iops =>
    simp only [agedKinds, Details.kind, Bool.and_eq_true, decide_eq_true_eq]
    exact and_congr_right fun _ =>
      ⟨fun available => ⟨by simp, by rintro _ _ _ _ _ ⟨⟩; exact available⟩,
        fun aged => aged.2 zone state type size iops rfl⟩
  | _ => simp [agedKinds, Details.kind, Kind.hasAgePolicy]

theorem wholeDays_le_iff {kind : Kind} {days : Nat} {created : Instant} :
    Age.wholeDays kind.strictDayBoundary created now ≤ days ↔ WithinDays kind days created now := by
  rw [← Int.ofNat_le, WithinDays]
  by_cases image : kind = .image
  · have loose : kind.strictDayBoundary = false := by simp [Kind.strictDayBoundary, image]
    rw [loose, Age.wholeDays_periods, if_pos image, Instant.nanosPerDay_eq]
    omega
  · have strict : kind.strictDayBoundary = true := by simp [Kind.strictDayBoundary, image]
    rw [strict, Age.wholeDays_calendar, if_neg image]
    omega

theorem isSome_spares_iff {kind : Kind} {createdAt : Option Instant} :
    (spares policy (Age.since kind.strictDayBoundary now createdAt)).isSome = true ↔
      ∀ created, createdAt = some created →
        WithinDays kind policy.maxAgeDays.toNat created now := by
  cases createdAt with
  | none => simp [Age.since, spares]
  | some created => simp [Age.since, spares, ← wholeDays_le_iff]

theorem spared_iff : spared snapshot policy now = true ↔ AsksAge snapshot policy ∧
    ∀ created, snapshot.createdAt = some created →
      WithinDays snapshot.kind policy.maxAgeDays.toNat created now := by
  rw [spared, Bool.and_eq_true, consultsAge_iff, isSome_spares_iff]

theorem isDefined_iff : isDefined snapshot policy now = true ↔ (AsksAge snapshot policy →
    ∀ created, snapshot.createdAt = some created →
      now.hasUtcDate = true ∧ created.hasUtcDate = true) := by
  have asked : consultsAge snapshot policy = true ↔ AsksAge snapshot policy := consultsAge_iff
  unfold isDefined Age.isDefined
  cases consulted : consultsAge snapshot policy with
  | false =>
    have never : ¬ AsksAge snapshot policy := by simp [← asked, consulted]
    simp [never]
  | true => cases snapshot.createdAt <;> simp [asked.mp consulted]

theorem lookupError_iff {message : String} : lookupError snapshot = some message ↔
    ∃ count, snapshot.details = .bucket count (.failed message) := by
  unfold lookupError
  cases snapshot.details with
  | bucket count lookup => cases lookup <;> simp
  | _ => simp

theorem retainOperation_of_aged {kind : Kind} (aged : kind ∈ agedKinds) : kind.retainOperation =
    if kind = .dbInstance ∨ kind = .dbSnapshot then .ignore else .keep := by
  cases kind <;> simp_all [agedKinds, Kind.retainOperation]

/-- A verdict is what the table says. There is one unless it needs an age and one of the two moments has
no UTC date. -/
theorem decide_agrees (snapshot : Snapshot) (policy : Policy) (now : Instant) :
    Agrees snapshot policy now (decide snapshot policy now) ∧
    (isDefined snapshot policy now = true ↔ (AsksAge snapshot policy →
      ∀ created, snapshot.createdAt = some created →
        now.hasUtcDate = true ∧ created.hasUtcDate = true)) := by
  refine ⟨?_, isDefined_iff⟩
  constructor
  · intro operation
    rw [decide_tagOperation, tabled_iff]
  · intro asked young
    rw [decide_operation, if_pos (spared_iff.mpr ⟨asked, young⟩)]
    exact retainOperation_of_aged asked.2.1
  · intro created born old
    have due : spared snapshot policy now ≠ true := fun spared =>
      old ((spared_iff.mp spared).2 created born)
    rw [decide_operation, if_neg due, decide_tagOperation]
  · intro ageless
    have due : spared snapshot policy now ≠ true := fun spared => ageless (spared_iff.mp spared).1
    rw [decide_operation, if_neg due, decide_tagOperation]
  · intro message
    rw [decide_error, lookupError_iff]

end Rules
end Retention
