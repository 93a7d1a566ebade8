import Retention.Resource.Policy
import Retention.Resource.Verdict

/-!
The retention rules. Tags settle an operation and its reason; a policy with age then spares what is
not older than its threshold. Nothing but the snapshot, the policy and the instant is looked at.
-/
namespace Retention
namespace Rules

def keepKey : String := "keep"

def keepStateKey : String := "keep_state"

/-- How the `keep` tag relates to the id of its resource. -/
inductive KeepTag
  | noTags
  | missing
  | mismatch
  | matchesId
deriving DecidableEq

def keepTag (snapshot : Snapshot) : KeepTag :=
  if !snapshot.hasTags then .noTags
  else match snapshot.tag? keepKey with
    | none => .missing
    | some value => if value = snapshot.id then .matchesId else .mismatch

/-- For a resource whose `keep` tag has to carry its own id: removed, unless it is guarded. -/
def byIdentity (snapshot : Snapshot) (removal : Operation) (guarded : Operation × Reason) :
    Operation × Reason :=
  match keepTag snapshot with
  | .noTags => (removal, .noTags)
  | .missing => (removal, .keepTagMissing)
  | .mismatch => (removal, .keepTagMismatch)
  | .matchesId => guarded

/-- A key or a value somewhere holds the word `keep`. -/
def mentionKeep : Option Tags → Bool
  | none => false
  | some tags => tags.entries.any fun tag =>
    Text.contains tag.1 keepKey || Text.contains tag.2 keepKey

/-- A guarded resource that may be stopped when nothing asks for its state to be kept. -/
def keptOrShutdown (keepsState : Bool) : Operation × Reason :=
  if keepsState then (.keep, .guarded) else (.shutdown, .keepStateMissing)

/-- The operation and its reason, from the tags and the state alone. -/
def byTags (snapshot : Snapshot) : Operation × Reason :=
  match snapshot.details with
  | .vmInstance .. =>
    byIdentity snapshot .terminate (keptOrShutdown (snapshot.hasTagKey keepStateKey))
  | .dbInstance .. =>
    -- An empty value does not ask for the state to be kept.
    let keepsState := (snapshot.tag? keepStateKey).any fun value => !value.isEmpty
    byIdentity snapshot .terminate (keptOrShutdown keepsState)
  | .volume _ state _ _ _ =>
    if state = "available" then byIdentity snapshot .terminate (.keep, .guarded)
    else (.keep, .notAvailable)
  | .image .. => byIdentity snapshot .deregister (.keep, .guarded)
  | .snapshot .. => byIdentity snapshot .delete (.keep, .guarded)
  | .dbSnapshot _ snapshotType =>
    if snapshotType = "manual" then byIdentity snapshot .delete (.ignore, .guarded)
    else (.ignore, .notManual)
  | .securityGroup name _ attachedInstances =>
    if !attachedInstances.isEmpty then (.noOp, .inUse)
    else if snapshot.hasTagKey keepKey then (.noOp, .keepTagPresent)
    else if name = "default" then (.noOp, .defaultGroup)
    else (.delete, .unguarded)
  | .bucket objectCount tagLookup =>
    match tagLookup with
    | .failed _ => (.notApplicable, .tagLookupFailed)
    | .noTagSet => if objectCount = 0 then (.noOp, .emptyBucket) else (.delete, .noTags)
    | .found =>
      if objectCount = 0 then (.noOp, .emptyBucket)
      else if mentionKeep snapshot.tags then (.noOp, .keepTagPresent)
      else (.delete, .keepTagMissing)
  | .resourceGroup _ =>
    match snapshot.tags with
    | none => (.delete, .noTags)
    | some _ =>
      if snapshot.hasTagKey keepKey then (.keep, .keepTagPresent) else (.delete, .keepTagMissing)

def lookupError (snapshot : Snapshot) : Option String :=
  match snapshot.details with
  | .bucket _ (.failed message) => some message
  | _ => none

/-- The age of a volume in use is never consulted. -/
def ageApplies (snapshot : Snapshot) : Bool :=
  match snapshot.details with
  | .volume _ state _ _ _ => state = "available"
  | details => details.kind.hasAgePolicy

/-- The verdict asks for an age. -/
def consultsAge (snapshot : Snapshot) (policy : Policy) : Bool :=
  policy.mode = .tagWithAge && ageApplies snapshot

/-- The reason for sparing a resource on account of its age. -/
def spares (policy : Policy) : Age → Option Reason
  | .unknown => some .ageUnknown
  | .days count => if count ≤ policy.maxAgeDays.toNat then some .youngerThanThreshold else none

def decide (snapshot : Snapshot) (policy : Policy) (now : Instant) : Verdict :=
  let (operation, reason) := byTags snapshot
  let verdict : Verdict :=
    { operation, tagOperation := operation, reason, age := .unknown, tags := snapshot.tags,
      error := lookupError snapshot }
  if consultsAge snapshot policy then
    let age := Age.since snapshot.kind.strictDayBoundary now snapshot.createdAt
    let retained := snapshot.kind.retainOperation
    match spares policy age with
    | none => { verdict with age }
    | some reason =>
      if operation = retained then { verdict with age }
      else { verdict with age, operation := retained, reason }
  else verdict

/-- The verdict needs no age that is undefined. -/
def isDefined (snapshot : Snapshot) (policy : Policy) (now : Instant) : Bool :=
  !consultsAge snapshot policy || Age.isDefined now snapshot.createdAt

end Rules
end Retention
