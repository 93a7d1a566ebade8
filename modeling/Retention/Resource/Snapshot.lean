import Retention.Dictionary
import Retention.Resource.Kind
import Retention.Time.Instant

/-!
One listed resource, independent of the provider. Absent tags are not the same as no tags: a report shows
the difference, and the rules for resource groups give another reason, while all other rules treat both alike.
-/
namespace Retention

abbrev Tags := Dictionary String

namespace Tags

/-- Tags as reports show them. -/
def text : Option Tags → String
  | none => "N/A"
  | some tags =>
    "\x7b" ++ ", ".intercalate (tags.entries.map fun tag => tag.1 ++ ": " ++ tag.2) ++ "\x7d"

end Tags

/-- How reading the tags of a bucket ended. -/
inductive TagLookup
  | found
  | noTagSet
  | failed (message : String)
deriving DecidableEq

structure AttachedVolume where
  volumeId : String
  status : String
deriving DecidableEq

inductive Details
  | vmInstance (instanceType availabilityZone state : String) (volumes : List AttachedVolume)
  | volume (availabilityZone state volumeType : String) (sizeGb : UInt64) (iops : Option UInt64)
  | image (name imageType creationDate : String)
  | snapshot (volumeId : String) (sizeGb : UInt64)
  | securityGroup (name : String) (vpcId : Option String) (attachedInstances : List String)
  | dbInstance (status instanceClass : String) (allocatedStorage : UInt64) (backupsEnabled : Bool)
  | dbSnapshot (dbInstanceId snapshotType : String)
  | bucket (objectCount : UInt64) (tagLookup : TagLookup)
  | resourceGroup (location : String)
deriving DecidableEq

namespace Details

def kind : Details → Kind
  | .vmInstance .. => .vmInstance
  | .volume .. => .volume
  | .image .. => .image
  | .snapshot .. => .snapshot
  | .securityGroup .. => .securityGroup
  | .dbInstance .. => .dbInstance
  | .dbSnapshot .. => .dbSnapshot
  | .bucket .. => .bucket
  | .resourceGroup .. => .resourceGroup

end Details

structure Snapshot where
  id : String
  account : Account
  region : String
  createdAt : Option Instant
  tags : Option Tags
  details : Details
deriving DecidableEq

namespace Snapshot

def kind (snapshot : Snapshot) : Kind := snapshot.details.kind

def lifecycleState (snapshot : Snapshot) : Option String :=
  match snapshot.details with
  | .vmInstance _ _ state _ => some state
  | .volume _ state _ _ _ => some state
  | .dbInstance status _ _ _ => some status
  | .dbSnapshot _ snapshotType => some snapshotType
  | _ => none

/-- The instances that use a security group. -/
def dependents (snapshot : Snapshot) : List String :=
  match snapshot.details with
  | .securityGroup _ _ attachedInstances => attachedInstances
  | _ => []

def tag? (snapshot : Snapshot) (key : String) : Option String :=
  snapshot.tags.bind fun tags => tags.get? key

def hasTagKey (snapshot : Snapshot) (key : String) : Bool := (snapshot.tag? key).isSome

def hasTags (snapshot : Snapshot) : Bool :=
  match snapshot.tags with
  | none => false
  | some tags => !tags.isEmpty

end Snapshot
end Retention
