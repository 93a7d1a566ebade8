import Retention.Host.Storage
import Retention.Json.Parse
import Retention.Provider.Codec

/-!
A capture of listings, for one or more accounts, and the lister that serves it. Buckets and resource
groups belong to the account; all other kinds belong to one of its regions.
-/
namespace Retention

structure RegionCapture where
  reservations : List Provider.Reservation
  volumes : List Provider.Volume
  images : List Provider.Image
  snapshots : List Provider.DiskSnapshot
  securityGroups : List Provider.SecurityGroup
  dbInstances : List Provider.DbInstance
  dbSnapshots : List Provider.DbSnapshot

structure AccountCapture where
  regions : Dictionary RegionCapture
  buckets : List Provider.Bucket
  resourceGroups : List Provider.ResourceGroup

structure Capture where
  account? : Account → Option AccountCapture

/-- Why a kind could not be listed. -/
inductive ListingError
  | accountMissing (account : Account)
  | failed (kind : Kind) (region message : String)
deriving DecidableEq

def ListingError.message : ListingError → String
  | .accountMissing account => "account " ++ account.name ++ " is not present in the inventory"
  | .failed kind region message =>
    "listing " ++ kind.name ++ " in " ++ region ++ " failed: " ++ message

/-- Why a file gives no capture. -/
inductive CaptureError
  | unreadable (cause : StorageError)
  | malformed
deriving DecidableEq

def CaptureError.message (path : String) : CaptureError → String
  | .unreadable _ => "failed to read inventory: " ++ path
  | .malformed => "failed to parse inventory: " ++ path

/-- Answers what a provider lists of one kind for an account and a region. -/
abbrev Lister := Account → String → Kind → Except ListingError (List Listed)

namespace RegionCapture

def instances (region : RegionCapture) : List Provider.VmInstance :=
  region.reservations.flatMap (·.instances)

/-- The instances of the region that refer to the group, in the order of the capture. -/
def attachedInstances (region : RegionCapture) (groupId : String) : List String :=
  (region.instances.filter fun machine =>
    machine.securityGroups.any fun group => group.groupId == groupId).map (·.instanceId)

def list (region : RegionCapture) : Kind → List Listed
  | .vmInstance => region.instances.map .vmInstance
  | .volume => region.volumes.map .volume
  | .image => region.images.map .image
  | .snapshot => region.snapshots.map .snapshot
  | .securityGroup => region.securityGroups.map fun group =>
    .securityGroup group (region.attachedInstances group.groupId)
  | .dbInstance => region.dbInstances.map .dbInstance
  | .dbSnapshot => region.dbSnapshots.map .dbSnapshot
  | .bucket | .resourceGroup => []

def ofJson? (value : Json) : Option RegionCapture := do
  let [reservations, volumes, images, snapshots, groups, dbInstances, dbSnapshots] ← value.slots
    ["Reservations", "Volumes", "Images", "Snapshots", "SecurityGroups", "DBInstances",
     "DBSnapshots"] | none
  some {
    reservations := ← reservations.defaulted [] (Json.list? Provider.Reservation.ofJson?)
    volumes := ← volumes.defaulted [] (Json.list? Provider.Volume.ofJson?)
    images := ← images.defaulted [] (Json.list? Provider.Image.ofJson?)
    snapshots := ← snapshots.defaulted [] (Json.list? Provider.DiskSnapshot.ofJson?)
    securityGroups := ← groups.defaulted [] (Json.list? Provider.SecurityGroup.ofJson?)
    dbInstances := ← dbInstances.defaulted [] (Json.list? Provider.DbInstance.ofJson?)
    dbSnapshots := ← dbSnapshots.defaulted [] (Json.list? Provider.DbSnapshot.ofJson?) }

end RegionCapture

namespace AccountCapture

def ofJson? (value : Json) : Option AccountCapture := do
  let [regions, buckets, groups] ← value.slots ["regions", "buckets", "resource_groups"] | none
  some {
    regions := ← regions.defaulted ∅ (Json.dictionary? RegionCapture.ofJson?)
    buckets := ← buckets.defaulted [] (Json.list? Provider.Bucket.ofJson?)
    resourceGroups := ← groups.defaulted [] (Json.list? Provider.ResourceGroup.ofJson?) }

end AccountCapture

namespace Capture

def empty : Capture := ⟨fun _ => none⟩

def set (capture : Capture) (account : Account) (content : AccountCapture) : Capture :=
  ⟨fun other => if other = account then some content else capture.account? other⟩

/-- Of captures for one account the last counts. -/
def accountsOfJson? : Json → Option Capture
  | .object entries => entries.foldlM (fun capture entry => do
      let account ← Account.codes.lookup entry.1
      let content ← AccountCapture.ofJson? entry.2
      some (capture.set account content)) empty
  | _ => none

def ofJson? (value : Json) : Option Capture := do
  let [accounts] ← value.slots ["accounts"] | none
  accounts.defaulted empty accountsOfJson?

/-- The capture in a file. -/
def read (found : Except StorageError FileNode) : Except CaptureError Capture :=
  match found.bind FileNode.text with
  | .error cause => .error (.unreadable cause)
  | .ok text =>
    match (Json.parse? text).bind ofJson? with
    | some capture => .ok capture
    | none => .error .malformed

/-- A region that the capture lacks has nothing in it; an account that it lacks is an error. -/
def lister (capture : Capture) : Lister := fun account region kind =>
  match capture.account? account with
  | none => .error (.accountMissing account)
  | some content =>
    match kind with
    | .bucket => .ok (content.buckets.map .bucket)
    | .resourceGroup => .ok (content.resourceGroups.map .resourceGroup)
    | kind => .ok (((content.regions.get? region).map (·.list kind)).getD [])

end Capture
end Retention
