import Retention.Json.Record
import Retention.Provider.Record

/-!
Provider records as exchanged data, under the providers' own field names.
-/
namespace Retention
namespace Provider

open Json (text? list? word64? word32?)

def texts (fields : List (String × String)) : List (String × Json) :=
  fields.map fun field => (field.1, .str field.2)

namespace Tag

def ofJson? (value : Json) : Option Tag := do
  let [key, content] ← value.slots ["Key", "Value"] | none
  some { key := ← key.required text?, value := ← content.defaulted "" text? }

def toJson (tag : Tag) : Json := .object (texts [("Key", tag.key), ("Value", tag.value)])

end Tag

def tags? (slot : Json.Slot) : Option (Option (List Tag)) := slot.optional (list? Tag.ofJson?)

def tagsJson (tags : Option (List Tag)) : Json := .orNull (fun tags => .array (tags.map Tag.toJson)) tags

namespace TagFailure

def ofJson? (value : Json) : Option TagFailure := do
  let [code, message] ← value.slots ["Code", "Message"] | none
  some { code := ← code.required text?, message := ← message.defaulted "" text? }

def toJson (failure : TagFailure) : Json :=
  .object (texts [("Code", failure.code), ("Message", failure.message)])

end TagFailure

namespace BlockDevice

def ofJson? (value : Json) : Option BlockDevice := do
  let [volumeId, status] ← value.slots ["VolumeId", "Status"] | none
  some { volumeId := ← volumeId.required text?, status := ← status.defaulted "" text? }

def toJson (device : BlockDevice) : Json :=
  .object (texts [("VolumeId", device.volumeId), ("Status", device.status)])

end BlockDevice

namespace DeviceMapping

def ofJson? (value : Json) : Option DeviceMapping := do
  let [deviceName, device] ← value.slots ["DeviceName", "Ebs"] | none
  some { deviceName := ← deviceName.defaulted "" text?, device := ← device.optional BlockDevice.ofJson? }

def toJson (mapping : DeviceMapping) : Json :=
  .object [("DeviceName", .str mapping.deviceName), ("Ebs", .orNull BlockDevice.toJson mapping.device)]

end DeviceMapping

namespace GroupReference

def ofJson? (value : Json) : Option GroupReference := do
  let [groupId, groupName] ← value.slots ["GroupId", "GroupName"] | none
  some { groupId := ← groupId.required text?, groupName := ← groupName.defaulted "" text? }

def toJson (group : GroupReference) : Json :=
  .object (texts [("GroupId", group.groupId), ("GroupName", group.groupName)])

end GroupReference

/-- A record with one text field, which may be left out. -/
def only? (field : String) (value : Json) : Option String := do
  let [content] ← value.slots [field] | none
  content.defaulted "" text?

namespace VmInstance

def ofJson? (value : Json) : Option VmInstance := do
  let [instanceId, instanceType, launchTime, placement, state, mappings, groups, tags] ← value.slots
    ["InstanceId", "InstanceType", "LaunchTime", "Placement", "State", "BlockDeviceMappings",
     "SecurityGroups", "Tags"] | none
  some {
    instanceId := ← instanceId.required text?
    instanceType := ← instanceType.defaulted "" text?
    launchTime := ← launchTime.optional text?
    availabilityZone := ← placement.defaulted "" (only? "AvailabilityZone")
    state := ← state.defaulted "" (only? "Name")
    deviceMappings := ← mappings.defaulted [] (list? DeviceMapping.ofJson?)
    securityGroups := ← groups.defaulted [] (list? GroupReference.ofJson?)
    tags := ← tags? tags }

def toJson (record : VmInstance) : Json := .object
  [("InstanceId", .str record.instanceId), ("InstanceType", .str record.instanceType),
   ("LaunchTime", .orNull .str record.launchTime),
   ("Placement", .object (texts [("AvailabilityZone", record.availabilityZone)])),
   ("State", .object (texts [("Name", record.state)])),
   ("BlockDeviceMappings", .array (record.deviceMappings.map DeviceMapping.toJson)),
   ("SecurityGroups", .array (record.securityGroups.map GroupReference.toJson)),
   ("Tags", tagsJson record.tags)]

end VmInstance

namespace Reservation

def ofJson? (value : Json) : Option Reservation := do
  let [instances] ← value.slots ["Instances"] | none
  some { instances := ← instances.defaulted [] (list? VmInstance.ofJson?) }

end Reservation

namespace Volume

def ofJson? (value : Json) : Option Volume := do
  let [volumeId, zone, state, volumeType, size, iops, createTime, tags] ← value.slots
    ["VolumeId", "AvailabilityZone", "State", "VolumeType", "Size", "Iops", "CreateTime", "Tags"]
    | none
  some {
    volumeId := ← volumeId.required text?
    availabilityZone := ← zone.defaulted "" text?
    state := ← state.defaulted "" text?
    volumeType := ← volumeType.defaulted "" text?
    size := ← size.defaulted 0 word64?
    iops := ← iops.optional word64?
    createTime := ← createTime.optional text?
    tags := ← tags? tags }

def toJson (record : Volume) : Json := .object
  [("VolumeId", .str record.volumeId), ("AvailabilityZone", .str record.availabilityZone),
   ("State", .str record.state), ("VolumeType", .str record.volumeType),
   ("Size", .word record.size), ("Iops", .orNull .word record.iops),
   ("CreateTime", .orNull .str record.createTime), ("Tags", tagsJson record.tags)]

end Volume

namespace Image

def ofJson? (value : Json) : Option Image := do
  let [imageId, name, imageType, creationDate, tags] ← value.slots
    ["ImageId", "Name", "ImageType", "CreationDate", "Tags"] | none
  some {
    imageId := ← imageId.required text?
    name := ← name.defaulted "" text?
    imageType := ← imageType.defaulted "" text?
    creationDate := ← creationDate.optional text?
    tags := ← tags? tags }

def toJson (record : Image) : Json := .object
  [("ImageId", .str record.imageId), ("Name", .str record.name),
   ("ImageType", .str record.imageType), ("CreationDate", .orNull .str record.creationDate),
   ("Tags", tagsJson record.tags)]

end Image

namespace DiskSnapshot

def ofJson? (value : Json) : Option DiskSnapshot := do
  let [snapshotId, volumeId, volumeSize, startTime, tags] ← value.slots
    ["SnapshotId", "VolumeId", "VolumeSize", "StartTime", "Tags"] | none
  some {
    snapshotId := ← snapshotId.required text?
    volumeId := ← volumeId.defaulted "" text?
    volumeSize := ← volumeSize.defaulted 0 word64?
    startTime := ← startTime.optional text?
    tags := ← tags? tags }

def toJson (record : DiskSnapshot) : Json := .object
  [("SnapshotId", .str record.snapshotId), ("VolumeId", .str record.volumeId),
   ("VolumeSize", .word record.volumeSize), ("StartTime", .orNull .str record.startTime),
   ("Tags", tagsJson record.tags)]

end DiskSnapshot

namespace SecurityGroup

def ofJson? (value : Json) : Option SecurityGroup := do
  let [groupId, groupName, vpcId, tags] ← value.slots ["GroupId", "GroupName", "VpcId", "Tags"]
    | none
  some {
    groupId := ← groupId.required text?
    groupName := ← groupName.defaulted "" text?
    vpcId := ← vpcId.optional text?
    tags := ← tags? tags }

def toJson (record : SecurityGroup) : Json := .object
  [("GroupId", .str record.groupId), ("GroupName", .str record.groupName),
   ("VpcId", .orNull .str record.vpcId), ("Tags", tagsJson record.tags)]

end SecurityGroup

namespace DbInstance

def ofJson? (value : Json) : Option DbInstance := do
  let [identifier, status, instanceClass, storage, backups, createTime, tags] ← value.slots
    ["DBInstanceIdentifier", "DBInstanceStatus", "DBInstanceClass", "AllocatedStorage",
     "BackupRetentionPeriod", "InstanceCreateTime", "TagList"] | none
  some {
    identifier := ← identifier.required text?
    status := ← status.defaulted "" text?
    instanceClass := ← instanceClass.defaulted "" text?
    allocatedStorage := ← storage.defaulted 0 word64?
    backupRetentionPeriod := ← backups.defaulted 0 word32?
    createTime := ← createTime.optional text?
    tags := ← tags? tags }

def toJson (record : DbInstance) : Json := .object
  [("DBInstanceIdentifier", .str record.identifier), ("DBInstanceStatus", .str record.status),
   ("DBInstanceClass", .str record.instanceClass), ("AllocatedStorage", .word record.allocatedStorage),
   ("BackupRetentionPeriod", .nat record.backupRetentionPeriod.toNat),
   ("InstanceCreateTime", .orNull .str record.createTime), ("TagList", tagsJson record.tags)]

end DbInstance

namespace DbSnapshot

def ofJson? (value : Json) : Option DbSnapshot := do
  let [identifier, dbInstance, snapshotType, createTime, tags] ← value.slots
    ["DBSnapshotIdentifier", "DBInstanceIdentifier", "SnapshotType", "SnapshotCreateTime", "TagList"]
    | none
  some {
    identifier := ← identifier.required text?
    dbInstanceIdentifier := ← dbInstance.defaulted "" text?
    snapshotType := ← snapshotType.defaulted "" text?
    createTime := ← createTime.optional text?
    tags := ← tags? tags }

def toJson (record : DbSnapshot) : Json := .object
  [("DBSnapshotIdentifier", .str record.identifier),
   ("DBInstanceIdentifier", .str record.dbInstanceIdentifier),
   ("SnapshotType", .str record.snapshotType),
   ("SnapshotCreateTime", .orNull .str record.createTime), ("TagList", tagsJson record.tags)]

end DbSnapshot

namespace Bucket

def ofJson? (value : Json) : Option Bucket := do
  let [name, creationDate, keyCount, tagSet, tagError] ← value.slots
    ["Name", "CreationDate", "KeyCount", "TagSet", "TagError"] | none
  some {
    name := ← name.required text?
    creationDate := ← creationDate.optional text?
    keyCount := ← keyCount.defaulted 0 word64?
    tagSet := ← tags? tagSet
    tagError := ← tagError.optional TagFailure.ofJson? }

def toJson (record : Bucket) : Json := .object
  [("Name", .str record.name), ("CreationDate", .orNull .str record.creationDate),
   ("KeyCount", .word record.keyCount), ("TagSet", tagsJson record.tagSet),
   ("TagError", .orNull TagFailure.toJson record.tagError)]

end Bucket

namespace ResourceGroup

def ofJson? (value : Json) : Option ResourceGroup := do
  let [name, location, tags] ← value.slots ["name", "location", "tags"] | none
  some {
    name := ← name.required text?
    location := ← location.defaulted "" text?
    tags := ← tags.optional (Json.dictionary? text?) }

def toJson (record : ResourceGroup) : Json := .object
  [("name", .str record.name), ("location", .str record.location),
   ("tags", .orNull (fun tags => .object (texts tags.entries)) record.tags)]

end ResourceGroup
end Provider

namespace Listed

/-- A record of the given kind. A security group is read without its instances. -/
def ofJson? (kind : Kind) (attachedInstances : List String) (value : Json) : Option Listed :=
  match kind with
  | .vmInstance => (Provider.VmInstance.ofJson? value).map .vmInstance
  | .volume => (Provider.Volume.ofJson? value).map .volume
  | .image => (Provider.Image.ofJson? value).map .image
  | .snapshot => (Provider.DiskSnapshot.ofJson? value).map .snapshot
  | .securityGroup =>
    (Provider.SecurityGroup.ofJson? value).map fun group => .securityGroup group attachedInstances
  | .dbInstance => (Provider.DbInstance.ofJson? value).map .dbInstance
  | .dbSnapshot => (Provider.DbSnapshot.ofJson? value).map .dbSnapshot
  | .bucket => (Provider.Bucket.ofJson? value).map .bucket
  | .resourceGroup => (Provider.ResourceGroup.ofJson? value).map .resourceGroup

def toJson : Listed → Json
  | .vmInstance record => record.toJson
  | .volume record => record.toJson
  | .image record => record.toJson
  | .snapshot record => record.toJson
  | .securityGroup record attachedInstances =>
    .object [("group", record.toJson), ("attached_instances", .strings attachedInstances)]
  | .dbInstance record => record.toJson
  | .dbSnapshot record => record.toJson
  | .bucket record => record.toJson
  | .resourceGroup record => record.toJson

end Listed
end Retention
