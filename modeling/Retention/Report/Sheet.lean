import Retention.Report.Basic

/-!
The layout of a report: one sheet for each kind, with fixed headings and one row of cells for each
record.
-/
namespace Retention
namespace Sheet

def headings : Kind → List String
  | .vmInstance =>
    ["OperationDone", "Age", "InstanceId", "InstanceType", "AvailabilityZone", "State", "Volumes",
     "Account", "Tags"]
  | .volume =>
    ["OperationDone", "Age", "VolumeId", "AvailabilityZone", "State", "VolumeType", "Size(GB)",
     "Iops", "Account", "Tags", "Errors"]
  | .image =>
    ["OperationDone", "Age", "ImageId", "Name", "Region", "Account", "ImageType", "CreationDate",
     "Tags", "Errors"]
  | .snapshot =>
    ["OperationDone", "Age", "SnapshotID", "VolumeId", "Region", "Account", "Tags", "Errors"]
  | .securityGroup =>
    ["OperationDone", "SG Id", "SG Name", "Account", "Region", "VpcId", "Instances", "Tags",
     "Errors"]
  | .dbInstance =>
    ["OperationDone", "Age", "Region", "DBInstanceIdentifier", "DBInstanceStatus",
     "DBInstanceClass", "AllocatedStorage", "Automatic Backups", "Account", "Tags", "Errors"]
  | .dbSnapshot =>
    ["OperationDone", "Age", "Region", "DBSnapshotIdentifier", "DBInstanceIdentifier",
     "SnapshotType", "Account", "Tags", "Errors"]
  | .bucket =>
    ["OperationDone", "Bucket", "Tags", "Key Count", "Failed Count", "Account", "Errors"]
  | .resourceGroup => ["OperationDone", "name", "location", "tags"]

def volumeText (volume : AttachedVolume) : String := volume.volumeId ++ " (" ++ volume.status ++ ")"

/-- The cells of a record under the headings of its kind; the operation comes first. -/
def cells (record : Record) : List String :=
  let snapshot := record.snapshot
  let label := record.label
  let age := record.verdict.age.text
  let account := snapshot.account.name
  let tags := Tags.text snapshot.tags
  let errors := record.verdict.error.getD ""
  match snapshot.details with
  | .vmInstance instanceType zone state volumes =>
    [label, age, snapshot.id, instanceType, zone, state, ", ".intercalate (volumes.map volumeText),
     account, tags]
  | .volume zone state volumeType sizeGb iops =>
    [label, age, snapshot.id, zone, state, volumeType, toString sizeGb.toNat,
     (iops.map fun count => toString count.toNat).getD "N/A", account, tags, errors]
  | .image name imageType creationDate =>
    [label, age, snapshot.id, name, snapshot.region, account, imageType, creationDate, tags, errors]
  | .snapshot volumeId _ =>
    [label, age, snapshot.id, volumeId, snapshot.region, account, tags, errors]
  | .securityGroup name vpcId attachedInstances =>
    [label, snapshot.id, name, account, snapshot.region, vpcId.getD "N/A",
     ", ".intercalate attachedInstances, tags, errors]
  | .dbInstance status instanceClass storage backups =>
    [label, age, snapshot.region, snapshot.id, status, instanceClass, toString storage.toNat,
     if backups then "true" else "false", account, tags, errors]
  | .dbSnapshot instanceId snapshotType =>
    [label, age, snapshot.region, snapshot.id, instanceId, snapshotType, account, tags, errors]
  | .bucket objectCount _ =>
    [label, snapshot.id, tags, toString objectCount.toNat, toString record.failedCount.toNat, account,
     errors]
  | .resourceGroup location => [label, snapshot.id, location, tags]

end Sheet
end Retention
