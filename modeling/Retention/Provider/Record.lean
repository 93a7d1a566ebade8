import Retention.Dictionary
import Retention.Resource.Kind

/-!
Resources as a provider lists them. What a provider may leave out is optional or has an empty default;
only `Snapshot.ofListed` looks inside.
-/
namespace Retention
namespace Provider

structure Tag where
  key : String
  value : String
deriving DecidableEq

/-- Why the tags of a bucket could not be read. -/
structure TagFailure where
  code : String
  message : String
deriving DecidableEq

structure BlockDevice where
  volumeId : String
  status : String
deriving DecidableEq

structure DeviceMapping where
  deviceName : String
  device : Option BlockDevice
deriving DecidableEq

structure GroupReference where
  groupId : String
  groupName : String
deriving DecidableEq

structure VmInstance where
  instanceId : String
  instanceType : String
  launchTime : Option String
  availabilityZone : String
  state : String
  deviceMappings : List DeviceMapping
  securityGroups : List GroupReference
  tags : Option (List Tag)
deriving DecidableEq

structure Reservation where
  instances : List VmInstance
deriving DecidableEq

structure Volume where
  volumeId : String
  availabilityZone : String
  state : String
  volumeType : String
  size : UInt64
  iops : Option UInt64
  createTime : Option String
  tags : Option (List Tag)
deriving DecidableEq

structure Image where
  imageId : String
  name : String
  imageType : String
  creationDate : Option String
  tags : Option (List Tag)
deriving DecidableEq

structure DiskSnapshot where
  snapshotId : String
  volumeId : String
  volumeSize : UInt64
  startTime : Option String
  tags : Option (List Tag)
deriving DecidableEq

structure SecurityGroup where
  groupId : String
  groupName : String
  vpcId : Option String
  tags : Option (List Tag)
deriving DecidableEq

structure DbInstance where
  identifier : String
  status : String
  instanceClass : String
  allocatedStorage : UInt64
  backupRetentionPeriod : UInt32
  createTime : Option String
  tags : Option (List Tag)
deriving DecidableEq

structure DbSnapshot where
  identifier : String
  dbInstanceIdentifier : String
  snapshotType : String
  createTime : Option String
  tags : Option (List Tag)
deriving DecidableEq

/-- A bucket with its object count and the outcome of reading its tags. -/
structure Bucket where
  name : String
  creationDate : Option String
  keyCount : UInt64
  tagSet : Option (List Tag)
  tagError : Option TagFailure
deriving DecidableEq

structure ResourceGroup where
  name : String
  location : String
  tags : Option (Dictionary String)
deriving DecidableEq

end Provider

/-- One listed record. A security group comes with the instances that use it. -/
inductive Listed
  | vmInstance (record : Provider.VmInstance)
  | volume (record : Provider.Volume)
  | image (record : Provider.Image)
  | snapshot (record : Provider.DiskSnapshot)
  | securityGroup (record : Provider.SecurityGroup) (attachedInstances : List String)
  | dbInstance (record : Provider.DbInstance)
  | dbSnapshot (record : Provider.DbSnapshot)
  | bucket (record : Provider.Bucket)
  | resourceGroup (record : Provider.ResourceGroup)
deriving DecidableEq

def Listed.kind : Listed → Kind
  | .vmInstance _ => .vmInstance
  | .volume _ => .volume
  | .image _ => .image
  | .snapshot _ => .snapshot
  | .securityGroup _ _ => .securityGroup
  | .dbInstance _ => .dbInstance
  | .dbSnapshot _ => .dbSnapshot
  | .bucket _ => .bucket
  | .resourceGroup _ => .resourceGroup

end Retention
