import Mathlib.Data.List.Forall2
import Retention.Proofs.Controls

/-!
Colour on and off. Only the operation of a record is styled, and its last character is no blank with or without
colour, so that the line goes on behind it in the same way. What is written in colour is therefore seen line by
line as it is written without.
-/
namespace Retention
namespace Terminal

open Colour
open Text (Lacks)

/-- The second text is what is seen of the first. -/
def Shows (text plain : String) : Prop := Seen text.toList plain.toList

variable {text plain first first' : String} {texts plains cells : List String} {widths : List Nat} {report : Report}
  {record : Record}

theorem shows_self (free : Lacks '\x1b' text) : Shows text text := seen_of_notMem free

theorem shows_selves (free : ∀ text ∈ texts, Lacks '\x1b' text) : List.Forall₂ Shows texts texts :=
  List.forall₂_same.mpr fun text member => shows_self (free text member)

theorem Shows.append (before : Shows first first') (after : Shows text plain) :
    Shows (first ++ text) (first' ++ plain) := by
  rw [Shows, String.toList_append, String.toList_append]
  exact Seen.append before after

theorem Shows.cellWidth_eq (shows : Shows text plain) (free : Lacks '\x1b' plain) :
    Table.cellWidth text = Table.cellWidth plain :=
  (Seen.width_eq shows).trans (Seen.width_eq (seen_of_notMem free)).symm

theorem shows_unlines (lines : List.Forall₂ Shows texts plains) :
    Shows (Text.unlines texts) (Text.unlines plains) := by
  induction lines with
  | nil => exact .nil
  | cons first _ ih =>
    rw [Text.unlines_cons, Text.unlines_cons]
    exact (first.append (shows_self (by decide))).append ih

/-! Cells. -/

section Cells

theorem colourCode_closed (operation : Operation) : 'm' ∉ (colourCode operation).toList := by
  cases operation <;> decide

theorem shows_styled (operation : Operation) (free : Lacks '\x1b' text) :
    Shows (styled true operation text) (styled false operation text) := by
  have opening : Shows ("\x1b[" ++ colourCode operation ++ "m") "" := by
    have sequence := seen_sequence (colourCode_closed operation)
    rw [Shows, String.toList_append, String.toList_append]
    exact sequence
  have closing : Shows "\x1b[0m" "" := @seen_sequence ['0'] (by decide)
  have whole := (opening.append (shows_self free)).append closing
  rwa [String.empty_append, String.append_empty] at whole

theorem trimRight_styled (colour : Bool) (operation : Operation)
    (solid : Text.trimRight text.toList = text.toList) :
    Text.trimRight (styled colour operation text).toList = (styled colour operation text).toList := by
  cases colour with
  | false => exact solid
  | true =>
    have reset : Text.trimRight "\x1b[0m".toList = "\x1b[0m".toList := by decide
    rw [styled, if_pos rfl, String.toList_append, Text.trimRight_append_eq, reset, if_neg (by decide)]

theorem trimRight_label (operation : Operation) (kind : Kind) :
    Text.trimRight (shortened (operation.label kind)).toList = (shortened (operation.label kind)).toList := by
  cases operation <;> cases kind <;> decide

end Cells

/-! Tables. -/

open Table

section Tables

theorem widen_congr {row row' : List String} (same : row.map cellWidth = row'.map cellWidth) (widths : List Nat) :
    widen widths row = widen widths row' := by
  induction widths generalizing row row' with
  | nil => rfl
  | cons width widths ih =>
    cases row with
    | nil =>
      rw [List.map_nil, eq_comm, List.map_eq_nil_iff] at same
      rw [same]
    | cons cell row =>
      cases row' with
      | nil => cases same
      | cons cell' row' =>
        obtain ⟨head, tail⟩ := List.cons.inj same
        rw [widen, widen, head, ih tail]

/-- A first cell that ends in no blank stays whole, and the line goes on behind it in the same way. -/
theorem exists_line_cons (first : String) (cells : List String) (width : Nat) (widths : List Nat) :
    ∃ rest, ∀ other : String, cellWidth other = cellWidth first → Text.trimRight other.toList = other.toList →
      (line (width :: widths) (other :: cells)).toList = other.toList ++ Text.trimRight rest := by
  obtain ⟨rest, joined⟩ : ∃ rest, ∀ field : String,
      ("  ".intercalate (field :: List.zipWith padded cells widths)).toList = field.toList ++ rest := by
    cases List.zipWith padded cells widths with
    | nil => exact ⟨[], fun field => by simp⟩
    | cons next fields =>
      refine ⟨"  ".toList ++ ("  ".intercalate (next :: fields)).toList, fun field => ?_⟩
      rw [String.intercalate_cons_cons, String.toList_append, String.toList_append, List.append_assoc]
  -- What is trimmed lies behind the cell; if all behind it is blank, the cell itself has no blank to lose.
  refine ⟨List.replicate (width - cellWidth first) ' ' ++ rest, fun other same solid => ?_⟩
  rw [line, Text.trimEnd, String.toList_ofList, List.zipWith_cons_cons, joined, toList_padded, same,
    List.append_assoc, Text.trimRight_append_eq]
  split
  · rename_i none
    rw [solid, none, List.append_nil]
  · rfl

theorem lacks_line (free : ∀ cell ∈ cells, Lacks '\x1b' cell) : Lacks '\x1b' (line widths cells) :=
  notMem_line (by decide) free

theorem shows_line (shows : Shows first first') (free : ∀ cell ∈ first' :: cells, Lacks '\x1b' cell)
    (solid : Text.trimRight first.toList = first.toList) (solid' : Text.trimRight first'.toList = first'.toList) :
    Shows (line widths (first :: cells)) (line widths (first' :: cells)) := by
  cases widths with
  | nil => exact .nil
  | cons width widths =>
    have wide := shows.cellWidth_eq (free _ List.mem_cons_self)
    obtain ⟨rest, split⟩ := exists_line_cons first' cells width widths
    have whole : Lacks '\x1b' (line (width :: widths) (first' :: cells)) := lacks_line free
    rw [Lacks, split first' rfl solid', List.mem_append, not_or] at whole
    rw [Shows, split first wide solid, split first' rfl solid']
    exact Seen.append shows (seen_of_notMem whole.2)

end Tables

/-! Reports. -/

section Reports

theorem lacks_own (text : String) (printable : Text.isPrintable text = true) : Lacks '\x1b' text :=
  Text.lacks_of_isPrintable (by decide) printable

theorem lacks_number (n : Nat) : Lacks '\x1b' (toString n) := lacks_own _ (Text.isPrintable_toString n)

theorem shows_row (free : ∀ text ∈ record.texts, Lacks '\x1b' text) :
    Shows (styled true record.verdict.operation (shortened record.label))
      (styled false record.verdict.operation (shortened record.label)) ∧
    ∀ cell ∈ tableRow false record, Lacks '\x1b' cell := by
  simp only [Record.texts, List.forall_mem_append] at free
  obtain ⟨⟨snapshot, -⟩, error⟩ := free
  have cells : ∀ cell ∈ (Sheet.cells record).map shortened, Lacks '\x1b' cell := by
    refine List.forall_mem_map.mpr fun cell member => lacks_shortened (by decide) ?_
    exact Sheet.lacks_cells (by decide) snapshot (by simpa using error) cell member
  rw [Sheet.cells_eq_cons] at cells
  refine ⟨shows_styled _ (cells _ List.mem_cons_self), ?_⟩
  rw [tableRow_eq]
  exact cells

theorem shows_tableRow (free : ∀ text ∈ record.texts, Lacks '\x1b' text) :
    Shows (line widths (tableRow true record)) (line widths (tableRow false record)) := by
  obtain ⟨shows, cells⟩ := shows_row free
  have solid (colour : Bool) := trimRight_styled colour record.verdict.operation
    (trimRight_label record.verdict.operation record.kind)
  rw [tableRow_eq] at cells ⊢
  rw [tableRow_eq]
  exact shows_line shows cells (solid true) (solid false)

theorem map_cellWidth_tableRow (free : ∀ text ∈ record.texts, Lacks '\x1b' text) :
    (tableRow true record).map cellWidth = (tableRow false record).map cellWidth := by
  obtain ⟨shows, cells⟩ := shows_row free
  rw [tableRow_eq] at cells ⊢
  rw [tableRow_eq, List.map_cons, List.map_cons, shows.cellWidth_eq (cells _ List.mem_cons_self)]

/-- Colour makes no column wider. -/
theorem columnWidths_tableRow {records : List Record} (headings : List String)
    (free : ∀ record ∈ records, ∀ text ∈ record.texts, Lacks '\x1b' text) :
    columnWidths headings (records.map (tableRow true)) = columnWidths headings (records.map (tableRow false)) := by
  rw [columnWidths, columnWidths, List.foldl_map, List.foldl_map]
  exact List.foldl_ext _ _ _ fun widths record member =>
    widen_congr (map_cellWidth_tableRow (free record member)) widths

theorem shows_sheet (free : ∀ record ∈ report.records, ∀ text ∈ record.texts, Lacks '\x1b' text) (kind : Kind) :
    List.Forall₂ Shows (sheet true report kind) (sheet false report kind) := by
  have each : ∀ record ∈ report.recordsOf kind, ∀ text ∈ record.texts, Lacks '\x1b' text :=
    fun record member => free record (List.mem_of_mem_filter member)
  rw [sheet_eq, sheet_eq, columnWidths_tableRow _ each]
  refine List.rel_append (shows_selves (lacks_above (by decide) _ _ _)) ?_
  rw [List.forall₂_map_left_iff, List.forall₂_map_right_iff]
  refine List.forall₂_same.mpr fun record member => ?_
  rw [row, row, columnWidths_tableRow _ each]
  exact shows_tableRow (each record member)

theorem lacks_heading (free : ∀ text ∈ report.texts, Lacks '\x1b' text) :
    ∀ line ∈ heading report, Lacks '\x1b' line := by
  simp only [Report.texts, List.forall_mem_append, List.forall_mem_cons] at free
  obtain ⟨⟨⟨⟨⟨⟨-, -, name, -⟩, -⟩, operations⟩, -⟩, notes⟩, -⟩ := free
  have mode : Lacks '\x1b' (if report.summary.dryRun then "dry run" else "applied") := by
    split <;> decide
  have counted : Lacks '\x1b' (counts report) := by
    rw [counts]
    split
    · decide
    · refine Text.lacks_intercalate (by decide) (List.forall_mem_map.mpr fun entry member => ?_)
      simp only [Text.lacks_append, and_assoc]
      exact ⟨operations _ (List.mem_map_of_mem member), by decide, lacks_number _⟩
  simp only [heading, List.forall_mem_append, List.forall_mem_cons, Text.lacks_append, and_assoc]
  refine ⟨name, by decide, mode, by decide, by decide, lacks_number _, by decide, counted, by simp, ?_, ?_⟩
  · split
    · simp
    · simp only [List.forall_mem_singleton, Text.lacks_append]
      exact ⟨by decide, lacks_number _⟩
  · refine List.forall_mem_map.mpr fun note member => ?_
    simp only [Text.lacks_append]
    exact ⟨by decide, notes note member⟩

theorem lacks_issueLine {issue : Issue} (free : ∀ text ∈ issue.texts, Lacks '\x1b' text) :
    Lacks '\x1b' (issueLine issue) := by
  simp only [Issue.texts, List.forall_mem_append, List.forall_mem_cons] at free
  obtain ⟨⟨region, message, -⟩, -⟩ := free
  have label : Lacks '\x1b' (issueLabel issue.kind) := by cases issue.kind <;> decide
  have account := lacks_own _ (Account.isPrintable_name issue.account)
  have kind := lacks_own _ (Kind.isPrintable_name issue.resourceKind)
  simp only [issueLine, Text.lacks_append, and_assoc]
  exact ⟨by decide, label, by decide, account, by decide, region, by decide, kind, by decide, message⟩

theorem lacks_issues (free : ∀ issue ∈ report.summary.issues, ∀ text ∈ issue.texts, Lacks '\x1b' text) :
    ∀ line ∈ issues report, Lacks '\x1b' line := by
  rw [issues]
  split
  · simp
  · simp only [List.forall_mem_append, List.forall_mem_cons, List.forall_mem_map, Text.lacks_append, and_assoc]
    exact ⟨by decide, by decide, lacks_number _, by decide, by simp,
      fun issue member => lacks_issueLine (free issue member)⟩

theorem shows_previewLine (free : ∀ text ∈ record.snapshot.texts, Lacks '\x1b' text) :
    Shows (previewLine true record) (previewLine false record) := by
  simp only [Snapshot.texts, List.forall_mem_append, List.forall_mem_cons] at free
  obtain ⟨⟨⟨id, region, -⟩, -⟩, -⟩ := free
  have kind := shows_self (lacks_own _ (Kind.isPrintable_name record.kind))
  have account := shows_self (lacks_own _ (Account.isPrintable_name record.snapshot.account))
  have gap : Shows "  " "  " := shows_self (by decide)
  have space : Shows " " " " := shows_self (by decide)
  have label := shows_styled record.verdict.operation
    (lacks_own _ (Operation.isPrintable_label record.verdict.operation record.kind))
  exact ((((((((gap.append label).append gap).append kind).append gap).append account).append space).append
    (shows_self region)).append gap).append (shows_self id)

theorem shows_reportText (free : ∀ text ∈ report.texts, Lacks '\x1b' text) :
    Shows (reportText true report) (reportText false report) := by
  have head := shows_selves (lacks_heading free)
  simp only [Report.texts, List.forall_mem_append, List.forall_mem_flatMap] at free
  obtain ⟨⟨⟨-, reported⟩, -⟩, records⟩ := free
  have kinds : List.Forall₂ Eq report.kindsPresent report.kindsPresent := List.forall₂_same.mpr fun _ _ => rfl
  have sheets : List.Forall₂ Shows (report.kindsPresent.flatMap (sheet true report))
      (report.kindsPresent.flatMap (sheet false report)) := by
    refine List.rel_flatMap kinds ?_
    rintro kind _ rfl
    exact shows_sheet records kind
  exact shows_unlines (List.rel_append (List.rel_append head sheets) (shows_selves (lacks_issues reported)))

theorem shows_previewText (free : ∀ record ∈ report.records, ∀ text ∈ record.snapshot.texts, Lacks '\x1b' text) :
    Shows (previewText true report) (previewText false report) := by
  have title : Lacks '\x1b' ("operations to apply: " ++ toString report.pending.length) :=
    Text.lacks_append.mpr ⟨by decide, lacks_number _⟩
  refine shows_unlines (.cons (shows_self title) ?_)
  rw [List.forall₂_map_left_iff, List.forall₂_map_right_iff]
  exact List.forall₂_same.mpr fun record member => shows_previewLine (free record (List.mem_of_mem_filter member))

/-- Without its colour sequences, what is written in colour is what is written without colour, where no text of
the report has an escape in it. -/
theorem removed_coloured (free : ∀ text ∈ report.texts, Lacks '\x1b' text) :
    removed (reportText true report).toList = (reportText false report).toList ∧
      removed (previewText true report).toList = (previewText false report).toList := by
  refine ⟨Seen.removed_eq (shows_reportText free), Seen.removed_eq (shows_previewText ?_)⟩
  intro record member text inside
  refine free text (List.mem_append_right _ (List.mem_flatMap.mpr ⟨record, member, ?_⟩))
  exact List.mem_append_left _ (List.mem_append_left _ inside)

/-- A volume that is deleted, with characters that take two columns in its tags. Its preview has colour
to remove. -/
theorem removed_coloured_volume :
    let snapshot : Snapshot :=
      { id := "vol-1", account := .main, region := "us-east-1", createdAt := none,
        tags := some (.ofList [("team", "倉庫")]),
        details := .volume "us-east-1a" "available" "gp3" 8 none }
    let verdict : Verdict :=
      { operation := .delete, tagOperation := .delete, reason := .keepTagMissing, age := .unknown,
        tags := snapshot.tags, error := none }
    let report : Report :=
      { schemaVersion := "1", toolVersion := "1", name := "sweep", generatedAt := "now",
        summary := { dryRun := true, accounts := [.main], regions := ["us-east-1"], kinds := [.volume],
                     operations := .ofList [("DELETE", 1)], emptyListings := 0, issues := [], notes := [] },
        records := [{ snapshot, verdict, failedCount := 0 }] }
    (∀ text ∈ report.texts, Lacks '\x1b' text) ∧
      removed (reportText true report).toList = (reportText false report).toList ∧
      previewText true report = "operations to apply: 1\n  \x1b[31mDelete\x1b[0m  volume  Main us-east-1  vol-1\n" ∧
      removed (previewText true report).toList =
        "operations to apply: 1\n  Delete  volume  Main us-east-1  vol-1\n".toList := by
  intro snapshot verdict report
  have free : ∀ text ∈ report.texts, Lacks '\x1b' text := by decide +kernel
  have plain : previewText false report = "operations to apply: 1\n  Delete  volume  Main us-east-1  vol-1\n" := by
    decide +kernel
  obtain ⟨whole, preview⟩ := removed_coloured free
  rw [plain] at preview
  exact ⟨free, whole, by decide +kernel, preview⟩

end Reports
end Terminal
end Retention
