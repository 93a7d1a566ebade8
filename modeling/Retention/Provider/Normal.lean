import Retention.Provider.Record
import Retention.Resource.Snapshot
import Retention.Time.Timestamp

/-!
Every listed record has a snapshot. Missing fields, and time stamps that cannot be read, become absent
values.
-/
namespace Retention

namespace Tags

/-- Of tags under one key the last counts. -/
def ofListed (tags : List Provider.Tag) : Tags := .ofList (tags.map fun tag => (tag.key, tag.value))

end Tags

namespace Provider

/-- The error code for a bucket that has never been tagged. -/
def noTagSetCode : String := "NoSuchTagSet"

def TagFailure.text (failure : TagFailure) : String :=
  if failure.message.isEmpty then failure.code else failure.code ++ ": " ++ failure.message

/-- The lookup and the tags of a bucket. Only a failed lookup leaves the tags absent. -/
def Bucket.tags (bucket : Bucket) : TagLookup × Option Tags :=
  match bucket.tagError, bucket.tagSet with
  | some failure, _ =>
    if failure.code = noTagSetCode then (.noTagSet, some ∅) else (.failed failure.text, none)
  | none, some tags => (.found, some (.ofListed tags))
  | none, none => (.noTagSet, some ∅)

end Provider

def Snapshot.ofListed (listed : Listed) (account : Account) (region : String) : Snapshot :=
  let make (id : String) (created : Option String) (tags : Option Tags) (details : Details) :=
    { id, account, region, createdAt := created.bind Timestamp.parse?, tags, details : Snapshot }
  match listed with
  | .vmInstance r =>
    make r.instanceId r.launchTime (r.tags.map .ofListed) <|
      .vmInstance r.instanceType r.availabilityZone r.state <|
        (r.deviceMappings.filterMap (·.device)).map fun device => ⟨device.volumeId, device.status⟩
  | .volume r =>
    make r.volumeId r.createTime (r.tags.map .ofListed)
      (.volume r.availabilityZone r.state r.volumeType r.size r.iops)
  | .image r =>
    make r.imageId r.creationDate (r.tags.map .ofListed)
      (.image r.name r.imageType (r.creationDate.getD ""))
  | .snapshot r =>
    make r.snapshotId r.startTime (r.tags.map .ofListed) (.snapshot r.volumeId r.volumeSize)
  | .securityGroup r attachedInstances =>
    make r.groupId none (r.tags.map .ofListed)
      (.securityGroup r.groupName r.vpcId attachedInstances)
  | .dbInstance r =>
    make r.identifier r.createTime (r.tags.map .ofListed)
      (.dbInstance r.status r.instanceClass r.allocatedStorage (0 < r.backupRetentionPeriod))
  | .dbSnapshot r =>
    make r.identifier r.createTime (r.tags.map .ofListed)
      (.dbSnapshot r.dbInstanceIdentifier r.snapshotType)
  | .bucket r => make r.name r.creationDate r.tags.2 (.bucket r.keyCount r.tags.1)
  | .resourceGroup r => make r.name none r.tags (.resourceGroup r.location)

end Retention
