import Mathlib.Data.List.Forall2
import Retention.Report.Sheet

/-!
What stands under the headings of a sheet. Headings and cells are listed apart from each other; here each thing that
a record has is listed with its heading, and the cells of a record turn out to be these, in the order of the headings
of its kind.
-/
namespace Retention
namespace Sheet

/-- What records of any kind have, each with the heading for it. The sheets do not all have a column for it. -/
def common (record : Record) : List (String × String) :=
  let snapshot := record.snapshot
  [("OperationDone", record.label), ("Age", record.verdict.age.text), ("Region", snapshot.region),
   ("Account", snapshot.account.name), ("Tags", Tags.text snapshot.tags), ("tags", Tags.text snapshot.tags),
   ("Errors", record.verdict.error.getD "")]

/-- What only records of the kind have, each with the heading for it. -/
def particular (record : Record) : List (String × String) :=
  let snapshot := record.snapshot
  match snapshot.details with
  | .vmInstance instanceType zone state volumes =>
    [("InstanceId", snapshot.id), ("InstanceType", instanceType), ("AvailabilityZone", zone), ("State", state),
     ("Volumes", ", ".intercalate (volumes.map volumeText))]
  | .volume zone state volumeType sizeGb iops =>
    [("VolumeId", snapshot.id), ("AvailabilityZone", zone), ("State", state), ("VolumeType", volumeType),
     ("Size(GB)", toString sizeGb.toNat), ("Iops", (iops.map fun count => toString count.toNat).getD "N/A")]
  | .image name imageType creationDate =>
    [("ImageId", snapshot.id), ("Name", name), ("ImageType", imageType), ("CreationDate", creationDate)]
  | .snapshot volumeId _ => [("SnapshotID", snapshot.id), ("VolumeId", volumeId)]
  | .securityGroup name vpcId attachedInstances =>
    [("SG Id", snapshot.id), ("SG Name", name), ("VpcId", vpcId.getD "N/A"),
     ("Instances", ", ".intercalate attachedInstances)]
  | .dbInstance status instanceClass storage backups =>
    [("DBInstanceIdentifier", snapshot.id), ("DBInstanceStatus", status), ("DBInstanceClass", instanceClass),
     ("AllocatedStorage", toString storage.toNat), ("Automatic Backups", if backups then "true" else "false")]
  | .dbSnapshot instanceId snapshotType =>
    [("DBSnapshotIdentifier", snapshot.id), ("DBInstanceIdentifier", instanceId), ("SnapshotType", snapshotType)]
  | .bucket objectCount _ =>
    [("Bucket", snapshot.id), ("Key Count", toString objectCount.toNat),
     ("Failed Count", toString record.failedCount.toNat)]
  | .resourceGroup location => [("name", snapshot.id), ("location", location)]

/-- What the record has for a heading. -/
def under? (record : Record) (heading : String) : Option String :=
  (particular record ++ common record).lookup heading

/-- The cell of a record under a heading. -/
def cell? (heading : String) (record : Record) : Option String :=
  ((headings record.kind).zip (cells record)).lookup heading

variable {record : Record} {heading : String}

theorem map_under? (record : Record) :
    (headings record.kind).map (under? record) = (cells record).map some := by
  obtain ⟨⟨id, account, region, created, tags, details⟩, verdict, failedCount⟩ := record
  cases details <;> rfl

/-- Under each heading of its kind a record has what the heading is for. -/
theorem forall₂_under (record : Record) :
    List.Forall₂ (fun heading cell => under? record heading = some cell) (headings record.kind) (cells record) := by
  have same := map_under? record
  rwa [← List.forall₂_eq_eq_eq, List.forall₂_map_left_iff, List.forall₂_map_right_iff] at same

theorem length_cells (record : Record) : (cells record).length = (headings record.kind).length :=
  (forall₂_under record).length_eq.symm

theorem headings_ne_nil (kind : Kind) : headings kind ≠ [] := by
  cases kind <;> exact List.cons_ne_nil _ _

theorem cells_ne_nil (record : Record) : cells record ≠ [] := by
  rw [← List.length_pos_iff, length_cells, List.length_pos_iff]
  exact headings_ne_nil record.kind

/-- Items placed by a key are found by it. -/
theorem lookup_zip {α β : Type} [BEq α] [LawfulBEq α] {item? : α → Option β} {keys : List α} {items : List β}
    (placed : List.Forall₂ (fun key item => item? key = some item) keys items) {key : α} (present : key ∈ keys) :
    (keys.zip items).lookup key = item? key := by
  induction placed with
  | nil => cases present
  | @cons first item keys items here _ ih =>
    rw [List.zip_cons_cons, List.lookup_cons]
    by_cases same : key = first
    · rw [same, beq_self_eq_true, here]
    · rw [beq_false_of_ne same]
      exact ih ((List.mem_cons.mp present).resolve_left same)

theorem cell?_eq (present : heading ∈ headings record.kind) : cell? heading record = under? record heading :=
  lookup_zip (forall₂_under record) present

theorem cell?_tags (present : "Tags" ∈ headings record.kind) :
    cell? "Tags" record = some (Tags.text record.snapshot.tags) := by
  rw [cell?_eq present]
  obtain ⟨⟨id, account, region, created, tags, details⟩, verdict, failedCount⟩ := record
  cases details <;> rfl

end Sheet
end Retention
