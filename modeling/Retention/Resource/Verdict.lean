import Retention.Resource.Snapshot
import Retention.Time.Age

/-!
The verdict on one resource: the operation, the one that the tags alone would have given, and the
reason that an audit sees. A record joins it with the resource it judges.
-/
namespace Retention

inductive Reason
  | noTags
  | keepTagMissing
  | keepTagMismatch
  | keepStateMissing
  | guarded
  | notAvailable
  | notManual
  | youngerThanThreshold
  | ageUnknown
  | inUse
  | defaultGroup
  | keepTagPresent
  | unguarded
  | emptyBucket
  | tagLookupFailed
deriving DecidableEq, Repr

namespace Reason

def code : Reason → String
  | .noTags => "NO_TAGS"
  | .keepTagMissing => "KEEP_TAG_MISSING"
  | .keepTagMismatch => "KEEP_TAG_MISMATCH"
  | .keepStateMissing => "KEEP_STATE_MISSING"
  | .guarded => "PROTECTED"
  | .notAvailable => "NOT_AVAILABLE"
  | .notManual => "NOT_MANUAL"
  | .youngerThanThreshold => "YOUNGER_THAN_THRESHOLD"
  | .ageUnknown => "AGE_UNKNOWN"
  | .inUse => "IN_USE"
  | .defaultGroup => "DEFAULT_GROUP"
  | .keepTagPresent => "KEEP_TAG_PRESENT"
  | .unguarded => "UNPROTECTED"
  | .emptyBucket => "EMPTY_BUCKET"
  | .tagLookupFailed => "TAG_LOOKUP_FAILED"

def all : List Reason :=
  [.noTags, .keepTagMissing, .keepTagMismatch, .keepStateMissing, .guarded, .notAvailable,
   .notManual, .youngerThanThreshold, .ageUnknown, .inUse, .defaultGroup, .keepTagPresent,
   .unguarded, .emptyBucket, .tagLookupFailed]

def codes : List (String × Reason) := all.map fun reason => (reason.code, reason)

end Reason

structure Verdict where
  operation : Operation
  /-- The operation chosen from the tags alone. -/
  tagOperation : Operation
  reason : Reason
  age : Age
  tags : Option Tags
  error : Option String
deriving DecidableEq

namespace Verdict

def ageOverridden (verdict : Verdict) : Bool := verdict.operation != verdict.tagOperation

end Verdict

structure Record where
  snapshot : Snapshot
  verdict : Verdict
  /-- Objects that a successful execution could not remove. -/
  failedCount : UInt64
deriving DecidableEq

namespace Record

def kind (record : Record) : Kind := record.snapshot.kind

def label (record : Record) : String := record.verdict.operation.label record.kind

/-- Records are ordered by account, region, kind and id. -/
def precedes (a b : Record) : Bool :=
  let byId := decide (a.snapshot.id ≤ b.snapshot.id)
  let byKind := a.kind.rank < b.kind.rank || (a.kind = b.kind && byId)
  let byRegion := a.snapshot.region < b.snapshot.region ||
    (a.snapshot.region = b.snapshot.region && byKind)
  a.snapshot.account.rank < b.snapshot.account.rank ||
    (a.snapshot.account = b.snapshot.account && byRegion)

end Record
end Retention
