import Retention.Proofs.Columns
import Retention.Report.Terminal

/-!
Control characters. What is written about a resource of itself has none, so one that stands in the cells of a
record comes from a text of the record. Of the cells the last one alone may show an error. The lines above the rows
of a table have none at all.
-/
namespace Retention
namespace Text

/-- No character of the text is this one. -/
def Lacks (c : Char) (text : String) : Prop := c ∉ text.toList

instance (c : Char) (text : String) : Decidable (Lacks c text) := inferInstanceAs (Decidable (c ∉ text.toList))

/-- No character of the text comes before the space. -/
def isPrintable (text : String) : Bool := text.toList.all fun c => 0x20 ≤ c.toNat

variable {c : Char} {text more : String}

@[simp] theorem lacks_append : Lacks c (text ++ more) ↔ Lacks c text ∧ Lacks c more := by
  rw [Lacks, String.toList_append, List.mem_append, not_or]
  rfl

theorem lacks_of_isPrintable (control : c.toNat < 0x20) (printable : isPrintable text = true) : Lacks c text := by
  intro inside
  have visible := List.all_eq_true.mp printable c inside
  exact Nat.not_le.mpr control (of_decide_eq_true visible)

theorem isPrintable_toString (n : Nat) : isPrintable (toString n) = true := by
  rw [isPrintable, List.all_eq_true]
  intro d member
  have digits : (toString n).toList = Nat.toDigits 10 n := by simp [Nat.repr_eq_ofList_toDigits]
  rw [digits] at member
  have digit := isDigit_of_mem_toDigits member
  simp only [isDigit, Bool.and_eq_true, decide_eq_true_eq] at digit
  have above : '0'.toNat ≤ d.toNat := digit.1
  exact decide_eq_true (Nat.le_trans (by decide) above)

theorem lacks_intercalate {separator : String} {items : List String} (apart : Lacks c separator)
    (free : ∀ item ∈ items, Lacks c item) : Lacks c (separator.intercalate items) :=
  notMem_intercalate apart free

end Text

open Text (Lacks isPrintable)

/-! The texts that a program is given. -/

def Tags.texts (tags : Option Tags) : List String :=
  tags.toList.flatMap fun tags => tags.entries.flatMap fun tag => [tag.1, tag.2]

def Details.texts : Details → List String
  | .vmInstance instanceType zone state volumes =>
    [instanceType, zone, state] ++ volumes.flatMap fun volume => [volume.volumeId, volume.status]
  | .volume zone state volumeType _ _ => [zone, state, volumeType]
  | .image name imageType creationDate => [name, imageType, creationDate]
  | .snapshot volumeId _ => [volumeId]
  | .securityGroup name vpcId attachedInstances => name :: vpcId.toList ++ attachedInstances
  | .dbInstance status instanceClass _ _ => [status, instanceClass]
  | .dbSnapshot instanceId snapshotType => [instanceId, snapshotType]
  | .bucket _ (.failed message) => [message]
  | .bucket _ .found | .bucket _ .noTagSet => []
  | .resourceGroup location => [location]

def Snapshot.texts (snapshot : Snapshot) : List String :=
  [snapshot.id, snapshot.region] ++ Tags.texts snapshot.tags ++ snapshot.details.texts

def Record.texts (record : Record) : List String :=
  record.snapshot.texts ++ Tags.texts record.verdict.tags ++ record.verdict.error.toList

def Issue.texts (issue : Issue) : List String := [issue.region, issue.message] ++ issue.resourceIds

/-- Every text that a report is made of. -/
def Report.texts (report : Report) : List String :=
  [report.schemaVersion, report.toolVersion, report.name, report.generatedAt] ++ report.summary.regions ++
    report.summary.operations.entries.map (·.1) ++ report.summary.issues.flatMap Issue.texts ++
    report.summary.notes ++ report.records.flatMap Record.texts

/-! What is written of itself. -/

section Printable

theorem Kind.isPrintable_name (kind : Kind) : isPrintable kind.name = true := by
  cases kind <;> decide

theorem Kind.isPrintable_sheetName (kind : Kind) : isPrintable kind.sheetName = true := by
  cases kind <;> decide

theorem Account.isPrintable_name (account : Account) : isPrintable account.name = true := by
  cases account <;> decide

theorem Operation.isPrintable_label (operation : Operation) (kind : Kind) :
    isPrintable (operation.label kind) = true := by
  cases operation <;> cases kind <;> decide

theorem Age.isPrintable_text (age : Age) : isPrintable age.text = true := by
  cases age with
  | unknown => decide
  | days count => exact Text.isPrintable_toString count

theorem Sheet.isPrintable_headings (kind : Kind) : ∀ heading ∈ headings kind, isPrintable heading = true := by
  cases kind <;> decide

end Printable

/-! Cells. -/

namespace Sheet

variable {c : Char} {record : Record}

/-- The cells in front of the error. -/
def front (record : Record) : List String :=
  if "Errors" ∈ headings record.kind then (cells record).dropLast else cells record

/-- The error of a record, where its kind has a column for it. -/
def errors (record : Record) : List String :=
  if "Errors" ∈ headings record.kind then [record.verdict.error.getD ""] else []

theorem cells_eq (record : Record) : cells record = front record ++ errors record := by
  obtain ⟨⟨id, account, region, created, tags, details⟩, verdict, failedCount⟩ := record
  cases details <;> rfl

theorem cells_eq_cons (record : Record) : cells record = record.label :: (cells record).tail := by
  obtain ⟨⟨id, account, region, created, tags, details⟩, verdict, failedCount⟩ := record
  cases details <;> rfl

theorem exists_front (record : Record) : ∃ rest, front record = record.label :: rest := by
  obtain ⟨⟨id, account, region, created, tags, details⟩, verdict, failedCount⟩ := record
  cases details <;> exact ⟨_, rfl⟩

theorem lacks_tagsText (control : c.toNat < 0x20) {tags : Option Tags}
    (free : ∀ text ∈ Tags.texts tags, Lacks c text) : Lacks c (Tags.text tags) := by
  cases tags with
  | none => exact Text.lacks_of_isPrintable control (by decide)
  | some tags =>
    have own (text : String) (printable : isPrintable text = true) : Lacks c text :=
      Text.lacks_of_isPrintable control printable
    have each : ∀ item ∈ tags.entries.map (fun tag => tag.1 ++ ": " ++ tag.2), Lacks c item := by
      intro item member
      obtain ⟨tag, inside, rfl⟩ := List.mem_map.mp member
      have among (text : String) (either : text ∈ [tag.1, tag.2]) : Lacks c text :=
        free text (List.mem_flatMap.mpr ⟨tags, by simp, List.mem_flatMap.mpr ⟨tag, inside, either⟩⟩)
      simp [among, own ": " (by decide)]
    simp [Tags.text, own "\x7b" (by decide), own "\x7d" (by decide),
      Text.lacks_intercalate (own ", " (by decide)) each]

theorem lacks_error (control : c.toNat < 0x20) (sound : ∀ error ∈ record.verdict.error, Lacks c error) :
    Lacks c (record.verdict.error.getD "") := by
  cases same : record.verdict.error with
  | none => exact Text.lacks_of_isPrintable control (by decide)
  | some error => exact sound error same

/-- A control character in a cell is one of a text of the resource, or of the error. -/
theorem lacks_cells (control : c.toNat < 0x20) (free : ∀ text ∈ record.snapshot.texts, Lacks c text)
    (sound : ∀ error ∈ record.verdict.error, Lacks c error) : ∀ cell ∈ cells record, Lacks c cell := by
  have own (text : String) (printable : isPrintable text = true) : Lacks c text :=
    Text.lacks_of_isPrintable control printable
  have number (n : Nat) : Lacks c (toString n) := own _ (Text.isPrintable_toString n)
  have none : Lacks c "N/A" := own _ (by decide)
  have label : Lacks c record.label := own _ (Operation.isPrintable_label _ _)
  have age : Lacks c record.verdict.age.text := own _ (Age.isPrintable_text _)
  have account : Lacks c record.snapshot.account.name := own _ (Account.isPrintable_name _)
  have error := lacks_error control sound
  have joined {items : List String} (each : ∀ item ∈ items, Lacks c item) : Lacks c (", ".intercalate items) :=
    Text.lacks_intercalate (own _ (by decide)) each
  obtain ⟨⟨id, account, region, created, tags, details⟩, verdict, failedCount⟩ := record
  simp only [Snapshot.texts, List.forall_mem_append, List.forall_mem_cons] at free
  obtain ⟨⟨⟨id, region, -⟩, tags⟩, inside⟩ := free
  have tags := lacks_tagsText control tags
  cases details with
  | vmInstance instanceType zone state volumes =>
    simp only [Details.texts, List.forall_mem_append, List.forall_mem_cons, List.forall_mem_flatMap] at inside
    obtain ⟨⟨type, place, status, -⟩, attached⟩ := inside
    have volumes : ∀ item ∈ volumes.map volumeText, Lacks c item := by
      refine List.forall_mem_map.mpr fun volume member => ?_
      obtain ⟨volumeId, status, -⟩ := attached volume member
      simp [volumeText, volumeId, status, own " (" (by decide), own ")" (by decide)]
    simp only [cells, List.forall_mem_cons]
    exact ⟨label, age, id, type, place, status, joined volumes, account, tags, by simp⟩
  | volume zone state volumeType sizeGb iops =>
    simp only [Details.texts, List.forall_mem_cons] at inside
    obtain ⟨place, status, type, -⟩ := inside
    have rate : Lacks c ((iops.map fun count => toString count.toNat).getD "N/A") := by
      cases iops with
      | none => exact none
      | some count => exact number count.toNat
    simp only [cells, List.forall_mem_cons]
    exact ⟨label, age, id, place, status, type, number _, rate, account, tags, error, by simp⟩
  | image name imageType creationDate =>
    simp only [Details.texts, List.forall_mem_cons] at inside
    obtain ⟨name, type, date, -⟩ := inside
    simp only [cells, List.forall_mem_cons]
    exact ⟨label, age, id, name, region, account, type, date, tags, error, by simp⟩
  | snapshot volumeId sizeGb =>
    simp only [Details.texts, List.forall_mem_cons] at inside
    simp only [cells, List.forall_mem_cons]
    exact ⟨label, age, id, inside.1, region, account, tags, error, by simp⟩
  | securityGroup name vpcId attachedInstances =>
    simp only [Details.texts, List.cons_append, List.forall_mem_append, List.forall_mem_cons] at inside
    obtain ⟨name, vpc, attached⟩ := inside
    have network : Lacks c (vpcId.getD "N/A") := by
      cases vpcId with
      | none => exact none
      | some vpcId => exact vpc vpcId (by simp)
    simp only [cells, List.forall_mem_cons]
    exact ⟨label, id, name, account, region, network, joined attached, tags, error, by simp⟩
  | dbInstance status instanceClass storage backups =>
    simp only [Details.texts, List.forall_mem_cons] at inside
    obtain ⟨status, type, -⟩ := inside
    have flag : Lacks c (if backups then "true" else "false") := by
      cases backups <;> exact own _ (by decide)
    simp only [cells, List.forall_mem_cons]
    exact ⟨label, age, region, id, status, type, number _, flag, account, tags, error, by simp⟩
  | dbSnapshot instanceId snapshotType =>
    simp only [Details.texts, List.forall_mem_cons] at inside
    obtain ⟨original, type, -⟩ := inside
    simp only [cells, List.forall_mem_cons]
    exact ⟨label, age, region, id, original, type, account, tags, error, by simp⟩
  | bucket objectCount tagLookup =>
    simp only [cells, List.forall_mem_cons]
    exact ⟨label, id, tags, number _, number _, account, error, by simp⟩
  | resourceGroup location =>
    simp only [Details.texts, List.forall_mem_cons] at inside
    simp only [cells, List.forall_mem_cons]
    exact ⟨label, id, inside.1, tags, by simp⟩

/-- Nothing of the error is in the cells in front of it. -/
theorem lacks_front (control : c.toNat < 0x20) (free : ∀ text ∈ record.snapshot.texts, Lacks c text) :
    ∀ cell ∈ front record, Lacks c cell := by
  let bare : Record := { record with verdict := { record.verdict with error := none } }
  have spared : front record = front bare := by
    obtain ⟨⟨id, account, region, created, tags, details⟩, verdict, failedCount⟩ := record
    cases details <;> rfl
  intro cell member
  have inside : cell ∈ cells bare := by
    rw [cells_eq, ← spared]
    exact List.mem_append_left _ member
  exact @lacks_cells c bare control free (by simp [bare]) cell inside

end Sheet

/-! Sheets on a terminal. -/

namespace Terminal

open Table

variable {c : Char} {text : String}

theorem lacks_shortened (other : c ≠ '.') (free : Lacks c text) : Lacks c (shortened text) := by
  rw [Lacks, shortened, String.toList_ofList, truncateMiddle]
  split
  · exact free
  · simp only [List.mem_append, not_or]
    exact ⟨⟨fun member => free (List.mem_of_mem_take member), by simpa using other⟩,
      fun member => free (List.mem_of_mem_drop member)⟩

theorem tableRow_eq (colour : Bool) (record : Record) : tableRow colour record =
    styled colour record.verdict.operation (shortened record.label) :: (Sheet.cells record).tail.map shortened := by
  rw [tableRow, Sheet.cells_eq_cons]
  rfl

/-- The lines above the rows of a table. -/
def above (count : Nat) (kind : Kind) (widths : List Nat) : List String :=
  ["", kind.sheetName ++ " (" ++ toString count ++ "):", line widths (Sheet.headings kind), line widths (rule widths)]

/-- The line of a record. -/
def row (colour : Bool) (report : Report) (kind : Kind) (record : Record) : String :=
  line (columnWidths (Sheet.headings kind) ((report.recordsOf kind).map (tableRow colour))) (tableRow colour record)

theorem lacks_above (control : c.toNat < 0x20) (count : Nat) (kind : Kind) (widths : List Nat) :
    ∀ text ∈ above count kind widths, Lacks c text := by
  have own (text : String) (printable : Text.isPrintable text = true) : Lacks c text :=
    Text.lacks_of_isPrintable control printable
  have space : c ≠ ' ' := by
    rintro rfl
    exact absurd control (by decide)
  have dash : c ≠ '-' := by
    rintro rfl
    exact absurd control (by decide)
  simp only [above, List.forall_mem_cons, Text.lacks_append, and_assoc]
  exact ⟨own _ (by decide), own _ (Kind.isPrintable_sheetName kind), own _ (by decide), own _ (Text.isPrintable_toString count),
    own _ (by decide), notMem_line space fun heading among => own _ (Sheet.isPrintable_headings kind heading among),
    notMem_line space (notMem_rule dash), by simp⟩

theorem sheet_eq (colour : Bool) (report : Report) (kind : Kind) : sheet colour report kind =
    above (report.recordsOf kind).length kind
      (columnWidths (Sheet.headings kind) ((report.recordsOf kind).map (tableRow colour))) ++
        (report.recordsOf kind).map (row colour report kind) := by
  rw [sheet, lines, List.map_map]
  rfl

end Terminal
end Retention
