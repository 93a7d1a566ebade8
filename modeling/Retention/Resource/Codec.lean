import Retention.Json.Record
import Retention.Resource.Policy
import Retention.Resource.Verdict
import Retention.Time.Timestamp

/-!
Exchanged data for policies, snapshots and verdicts. Each reader stands beside its writer; what a
writer can write at all, its reader reads back.
-/
namespace Retention

namespace Kind

def ofJson? (value : Json) : Option Kind := value.choice? codes

def toJson (kind : Kind) : Json := .str kind.name

end Kind

namespace Account

def ofJson? (value : Json) : Option Account := value.choice? codes

def toJson (account : Account) : Json := .str account.name

end Account

namespace Operation

def ofJson? (value : Json) : Option Operation := value.choice? codes

def toJson (operation : Operation) : Json := .str operation.code

end Operation

namespace Reason

def ofJson? (value : Json) : Option Reason := value.choice? codes

def toJson (reason : Reason) : Json := .str reason.code

end Reason

namespace Policy

def ofJson? (value : Json) : Option Policy := do
  let [mode, maxAgeDays] ← value.slots ["mode", "max_age_days"] | none
  some {
    mode := ← mode.required (Json.choice? Mode.aliases)
    maxAgeDays := ← maxAgeDays.required Json.word64? }

def toJson (policy : Policy) : Json :=
  .object [("mode", .str policy.mode.name), ("max_age_days", .word policy.maxAgeDays)]

end Policy

namespace PolicyTable

/-- The keys are kinds; of policies for one kind the last counts. -/
def ofJson? : Json → Option PolicyTable
  | .object entries => entries.foldlM (fun table entry => do
      let kind ← Kind.codes.lookup entry.1
      let policy ← Policy.ofJson? entry.2
      some (table.set kind policy)) empty
  | _ => none

end PolicyTable

namespace Tags

def ofJson? (value : Json) : Option Tags := value.dictionary? Json.text?

def toJson (tags : Tags) : Json := .object (tags.entries.map fun tag => (tag.1, .str tag.2))

end Tags

namespace Instant

def ofJson? (value : Json) : Option Instant := value.text?.bind fun text =>
  Timestamp.internet? text.toList

/-- Nothing for an instant of a negative year. -/
def toJson? (instant : Instant) : Option Json := (Timestamp.internetText? instant).map .str

end Instant

namespace TagLookup

def caseNames : List String := ["found", "no_tag_set", "failed"]

/-- Inside a record that names its own case, the case of a lookup may also be given by position. -/
def caseName? : Json → Option String
  | .str name => if caseNames.contains name then some name else none
  | .int (.ofNat index) => caseNames[index]?
  | _ => none

/-- A case without fields takes any object, but no further items of an array. -/
def plain (lookup : TagLookup) : Json → Option TagLookup
  | .array (_ :: _) => none
  | _ => some lookup

def ofJson? (value : Json) : Option TagLookup := do
  let (name, rest) ← value.tagged? "status"
  match ← caseName? name with
  | "found" => plain .found rest
  | "no_tag_set" => plain .noTagSet rest
  | _ =>
    let [message] ← rest.slots ["message"] | none
    some (.failed (← message.required Json.text?))

def toJson : TagLookup → Json
  | .found => .object [("status", .str "found")]
  | .noTagSet => .object [("status", .str "no_tag_set")]
  | .failed message => .object [("status", .str "failed"), ("message", .str message)]

end TagLookup

namespace AttachedVolume

def ofJson? (value : Json) : Option AttachedVolume := do
  let [volumeId, status] ← value.slots ["volume_id", "status"] | none
  some { volumeId := ← volumeId.required Json.text?, status := ← status.required Json.text? }

def toJson (volume : AttachedVolume) : Json :=
  .object [("volume_id", .str volume.volumeId), ("status", .str volume.status)]

end AttachedVolume

namespace Details

def ofFields? : Kind → Json → Option Details
  | .vmInstance, value => do
    let [instanceType, zone, state, volumes] ←
      value.slots ["instance_type", "availability_zone", "state", "volumes"] | none
    some (.vmInstance (← instanceType.required Json.text?) (← zone.required Json.text?)
      (← state.required Json.text?) (← volumes.required (Json.list? AttachedVolume.ofJson?)))
  | .volume, value => do
    let [zone, state, volumeType, sizeGb, iops] ←
      value.slots ["availability_zone", "state", "volume_type", "size_gb", "iops"] | none
    some (.volume (← zone.required Json.text?) (← state.required Json.text?)
      (← volumeType.required Json.text?) (← sizeGb.required Json.word64?)
      (← iops.optional Json.word64?))
  | .image, value => do
    let [name, imageType, creationDate] ←
      value.slots ["name", "image_type", "creation_date"] | none
    some (.image (← name.required Json.text?) (← imageType.required Json.text?)
      (← creationDate.required Json.text?))
  | .snapshot, value => do
    let [volumeId, sizeGb] ← value.slots ["volume_id", "size_gb"] | none
    some (.snapshot (← volumeId.required Json.text?) (← sizeGb.required Json.word64?))
  | .securityGroup, value => do
    let [name, vpcId, attached] ← value.slots ["name", "vpc_id", "attached_instances"] | none
    some (.securityGroup (← name.required Json.text?) (← vpcId.optional Json.text?)
      (← attached.required (Json.list? Json.text?)))
  | .dbInstance, value => do
    let [status, instanceClass, storage, backups] ←
      value.slots ["status", "instance_class", "allocated_storage", "backups_enabled"] | none
    some (.dbInstance (← status.required Json.text?) (← instanceClass.required Json.text?)
      (← storage.required Json.word64?) (← backups.required Json.bool?))
  | .dbSnapshot, value => do
    let [instanceId, snapshotType] ← value.slots ["db_instance_id", "snapshot_type"] | none
    some (.dbSnapshot (← instanceId.required Json.text?) (← snapshotType.required Json.text?))
  | .bucket, value => do
    let [objectCount, tagLookup] ← value.slots ["object_count", "tag_lookup"] | none
    some (.bucket (← objectCount.required Json.word64?) (← tagLookup.required TagLookup.ofJson?))
  | .resourceGroup, value => do
    let [location] ← value.slots ["location"] | none
    some (.resourceGroup (← location.required Json.text?))

def ofJson? (value : Json) : Option Details := do
  let (name, rest) ← value.tagged? "kind"
  let kind ← Kind.codes.lookup (← name.text?)
  ofFields? kind rest

def fields : Details → List (String × Json)
  | .vmInstance instanceType zone state volumes =>
    [("instance_type", .str instanceType), ("availability_zone", .str zone), ("state", .str state),
     ("volumes", .array (volumes.map AttachedVolume.toJson))]
  | .volume zone state volumeType sizeGb iops =>
    [("availability_zone", .str zone), ("state", .str state), ("volume_type", .str volumeType),
     ("size_gb", .word sizeGb), ("iops", .orNull .word iops)]
  | .image name imageType creationDate =>
    [("name", .str name), ("image_type", .str imageType), ("creation_date", .str creationDate)]
  | .snapshot volumeId sizeGb => [("volume_id", .str volumeId), ("size_gb", .word sizeGb)]
  | .securityGroup name vpcId attached =>
    [("name", .str name), ("vpc_id", .orNull .str vpcId), ("attached_instances", .strings attached)]
  | .dbInstance status instanceClass storage backups =>
    [("status", .str status), ("instance_class", .str instanceClass),
     ("allocated_storage", .word storage), ("backups_enabled", .bool backups)]
  | .dbSnapshot instanceId snapshotType =>
    [("db_instance_id", .str instanceId), ("snapshot_type", .str snapshotType)]
  | .bucket objectCount tagLookup =>
    [("object_count", .word objectCount), ("tag_lookup", tagLookup.toJson)]
  | .resourceGroup location => [("location", .str location)]

def toJson (details : Details) : Json := .object (("kind", details.kind.toJson) :: details.fields)

end Details

namespace Snapshot

def ofJson? (value : Json) : Option Snapshot := do
  let [id, account, region, createdAt, tags, details] ←
    value.slots ["id", "account", "region", "created_at", "tags", "details"] | none
  some {
    id := ← id.required Json.text?
    account := ← account.required Account.ofJson?
    region := ← region.required Json.text?
    createdAt := ← createdAt.required (Json.orNull? Instant.ofJson?)
    tags := ← tags.optional Tags.ofJson?
    details := ← details.required Details.ofJson? }

/-- Nothing where the creation time has no written form. -/
def toJson? (snapshot : Snapshot) : Option Json := do
  let createdAt ← match snapshot.createdAt with
    | none => some .null
    | some instant => instant.toJson?
  some <| .object
    [("id", .str snapshot.id), ("account", snapshot.account.toJson), ("region", .str snapshot.region),
     ("created_at", createdAt), ("tags", .orNull Tags.toJson snapshot.tags),
     ("details", snapshot.details.toJson)]

end Snapshot

namespace Age

def ofDays? : Option UInt64 → Age
  | none => .unknown
  | some count => .days count.toNat

def toJson : Age → Json
  | .unknown => .null
  | .days count => .nat count

end Age

namespace Verdict

def ofJson? (value : Json) : Option Verdict := do
  let [operation, tagOperation, reason, age, tags, error] ←
    value.slots ["operation", "tag_operation", "reason", "age", "tags", "error"] | none
  some {
    operation := ← operation.required Operation.ofJson?
    tagOperation := ← tagOperation.required Operation.ofJson?
    reason := ← reason.required Reason.ofJson?
    age := Age.ofDays? (← age.optional Json.word64?)
    tags := ← tags.optional Tags.ofJson?
    error := ← error.optional Json.text? }

/-- An absent error has no field. -/
def toJson (verdict : Verdict) : Json := .object <|
  [("operation", verdict.operation.toJson), ("tag_operation", verdict.tagOperation.toJson),
   ("reason", verdict.reason.toJson), ("age", verdict.age.toJson),
   ("tags", .orNull Tags.toJson verdict.tags)] ++
  verdict.error.toList.map fun error => ("error", .str error)

end Verdict

namespace Record

def ofJson? (value : Json) : Option Record := do
  let [snapshot, verdict, failedCount] ←
    value.slots ["snapshot", "verdict", "failed_count"] | none
  some {
    snapshot := ← snapshot.required Snapshot.ofJson?
    verdict := ← verdict.required Verdict.ofJson?
    failedCount := ← failedCount.defaulted 0 Json.word64? }

def toJson? (record : Record) : Option Json := do
  some <| .object
    [("snapshot", ← record.snapshot.toJson?), ("verdict", record.verdict.toJson),
     ("failed_count", .word record.failedCount)]

end Record
end Retention
