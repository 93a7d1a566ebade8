import Retention.Proofs.Controls
import Retention.Proofs.Markdown

/-!
How many lines a report takes. A text takes one line more than it has line breaks. In a table of markdown the
line breaks of a cell are written as spaces, so that every record takes one line. A terminal gets them as they are,
those of an error among them, and the message of an issue is written as it is to either.
-/
namespace Retention
namespace Text

/-- The line breaks of a text. -/
def breaks (text : String) : Nat := text.toList.count '\n'

variable {text more : String}

theorem length_splitAt {α : Type} [DecidableEq α] (separator : α) (text : List α) :
    (splitAt separator text).length = text.count separator + 1 := by
  induction text with
  | nil => rfl
  | cons item rest ih =>
    rw [splitAt]
    split
    · rename_i same
      rw [List.length_cons, ih, same, List.count_cons_self]
    · rename_i other
      obtain ⟨piece, pieces, split⟩ := List.exists_cons_of_ne_nil (splitAt_ne_nil separator rest)
      rw [List.count_cons_of_ne other, ← ih, split]
      rfl

theorem length_splitOn (text : String) : (splitOn '\n' text).length = breaks text + 1 := by
  rw [splitOn, List.length_map, length_splitAt, breaks]

@[simp] theorem breaks_append : breaks (text ++ more) = breaks text + breaks more := by
  rw [breaks, String.toList_append, List.count_append, breaks, breaks]

theorem breaks_eq_zero_iff : breaks text = 0 ↔ Lacks '\n' text := List.count_eq_zero

end Text

open Text (Lacks)

/-! Sections. -/

/-- The lines of a section: some above, and then those of each item. -/
structure Stacked {α : Type} (above : Nat) (items : List α) (shown : α → String) (height : α → Nat)
    (lines : List String) : Prop where
  split : ∃ top, top.length = above ∧ lines = top ++ items.flatMap fun item => Text.splitOn '\n' (shown item)
  heights : ∀ item ∈ items, (Text.splitOn '\n' (shown item)).length = height item

/-- How a report is written: the lines in front, how many lines stand above the rows of a table and above the
issues, and what is written for a record and for an issue. -/
structure Layout where
  front : List String
  aboveRows : Nat
  aboveIssues : Nat
  row : Kind → Record → String
  rowHeight : Record → Nat
  issueLine : Issue → String

/-- An issue takes a line, and one more for each line break in its message. -/
def Issue.height (issue : Issue) : Nat := Text.breaks issue.message + 1

/-- The lines of the text are those in front, a section for each kind of the records, and one for the issues, if
there are any. -/
inductive Laid (report : Report) (layout : Layout) (text : String) : Prop
  | intro {tables : List (List String)} {issues : List String}
      (lines : Text.splitOn '\n' text =
        layout.front.flatMap (Text.splitOn '\n') ++ tables.flatten ++ issues ++ [""])
      (tables : List.Forall₂ (fun kind table =>
        Stacked layout.aboveRows (report.recordsOf kind) (layout.row kind) layout.rowHeight table)
        report.kindsPresent tables)
      (issues : Stacked (if report.summary.issues.isEmpty then 0 else layout.aboveIssues) report.summary.issues
        layout.issueLine Issue.height issues)

section Sections

variable {α : Type} {above : Nat} {items : List α} {shown : α → String} {height : α → Nat} {lines : List String}
  {report : Report} {layout : Layout}

theorem Stacked.length_eq (stacked : Stacked above items shown height lines) :
    lines.length = above + (items.map height).sum := by
  obtain ⟨top, rfl, rfl⟩ := stacked.split
  rw [List.length_append, List.length_flatMap, List.map_congr_left stacked.heights]

theorem stacked_flatMap {top : List String} (whole : ∀ line ∈ top, Lacks '\n' line)
    (heights : ∀ item ∈ items, Text.breaks (shown item) + 1 = height item) :
    Stacked top.length items shown height ((top ++ items.map shown).flatMap (Text.splitOn '\n')) := by
  refine ⟨⟨top, rfl, ?_⟩, fun item member => (Text.length_splitOn _).trans (heights item member)⟩
  rw [List.flatMap_append, Text.flatMap_splitOn whole, List.flatMap_map]

/-- A text that is put together from such sections is laid out. -/
theorem laid_unlines (layout : Layout) {sheet : Kind → List String} {issues : List String}
    (sheets : ∀ kind, ∃ top, top.length = layout.aboveRows ∧ (∀ line ∈ top, Lacks '\n' line) ∧
      sheet kind = top ++ (report.recordsOf kind).map (layout.row kind))
    (rows : ∀ kind, ∀ record ∈ report.recordsOf kind,
      Text.breaks (layout.row kind record) + 1 = layout.rowHeight record)
    (below : ∃ top, top.length = (if report.summary.issues.isEmpty then 0 else layout.aboveIssues) ∧
      (∀ line ∈ top, Lacks '\n' line) ∧ issues = top ++ report.summary.issues.map layout.issueLine)
    (heights : ∀ issue ∈ report.summary.issues, Text.breaks (layout.issueLine issue) + 1 = issue.height) :
    Laid report layout (Text.unlines (layout.front ++ report.kindsPresent.flatMap sheet ++ issues)) := by
  obtain ⟨top, length, whole, rfl⟩ := below
  have lines := Text.splitOn_unlines
    (layout.front ++ report.kindsPresent.flatMap sheet ++ (top ++ report.summary.issues.map layout.issueLine))
  rw [List.flatMap_append, List.flatMap_append, List.flatMap_assoc,
    List.flatMap_def (l := report.kindsPresent)] at lines
  refine .intro lines ?_ (length ▸ stacked_flatMap whole heights)
  refine List.forall₂_map_right_iff.mpr (List.forall₂_same.mpr fun kind _ => ?_)
  obtain ⟨top, length, whole, split⟩ := sheets kind
  rw [split, ← length]
  exact stacked_flatMap whole (rows kind)

/-- The lengths of the sections are those of what stands in them. -/
theorem Laid.exists_lengths {text : String} (laid : Laid report layout text) :
    ∃ (tables : List (List String)) (issues : List String),
      Text.splitOn '\n' text = layout.front.flatMap (Text.splitOn '\n') ++ tables.flatten ++ issues ++ [""] ∧
      tables.map List.length = (report.kindsPresent.map fun kind =>
        layout.aboveRows + ((report.recordsOf kind).map layout.rowHeight).sum) ∧
      issues.length = (if report.summary.issues.isEmpty then 0 else layout.aboveIssues) +
        (report.summary.issues.map Issue.height).sum := by
  obtain ⟨lines, tables, issues⟩ := laid
  refine ⟨_, _, lines, ?_, issues.length_eq⟩
  rw [← List.forall₂_eq_eq_eq, List.forall₂_map_left_iff, List.forall₂_map_right_iff]
  exact tables.flip.imp fun table kind stacked => stacked.length_eq

end Sections

variable {report : Report} {record : Record} {issue : Issue} {text : String}

theorem breaks_own (printable : Text.isPrintable text = true) : Text.breaks text = 0 :=
  Text.breaks_eq_zero_iff.mpr (Text.lacks_of_isPrintable (by decide) printable)

/-! Markdown. -/

namespace Markdown

def row (record : Record) : String := tableRow ((Sheet.cells record).map escaped)

def layout (report : Report) : Layout where
  front := facts report
  aboveRows := 5
  aboveIssues := 3
  row := fun _ => row
  rowHeight := fun _ => 1
  issueLine := issueLine

theorem breaks_issueLine (region : Lacks '\n' issue.region) : Text.breaks (issueLine issue) + 1 = issue.height := by
  have account := breaks_own (Account.isPrintable_name issue.account)
  have kind := breaks_own (Kind.isPrintable_name issue.resourceKind)
  have place := Text.breaks_eq_zero_iff.mpr region
  have gaps : Text.breaks "- " = 0 ∧ Text.breaks " " = 0 ∧ Text.breaks ": " = 0 := by decide
  simp [issueLine, Issue.height, account, kind, place, gaps]

/-- In markdown every record takes one line. -/
theorem laid_document (regions : ∀ issue ∈ report.summary.issues, Lacks '\n' issue.region) :
    Laid report (layout report) (document report) := by
  refine laid_unlines (layout report) (fun kind => ?_) (fun kind record _ => ?_) ?_ fun issue member =>
    breaks_issueLine (regions issue member)
  · have whole : ∀ line ∈ sheet report kind, '\n' ∉ line.toList := feed_notMem_sheet
    rw [sheet, List.forall_mem_append] at whole
    exact ⟨_, rfl, whole.1, rfl⟩
  · exact congrArg (· + 1) (Text.breaks_eq_zero_iff.mpr (feed_notMem_tableRow (Sheet.cells_ne_nil record)))
  · rw [issues]
    cases none : report.summary.issues.isEmpty with
    | true => exact ⟨[], rfl, by simp, by rw [List.isEmpty_iff.mp none]; rfl⟩
    | false => exact ⟨["", "## Issues", ""], rfl, by decide, rfl⟩

end Markdown

/-! Terminals. -/

namespace Terminal

open Table

/-- A record takes a line, and one more for each line break of its error that is shown and is not at its end. -/
def rowHeight (record : Record) : Nat :=
  ((Sheet.errors record).map fun error => Text.breaks (Text.trimEnd (shortened error))).sum + 1

theorem rowHeight_eq_one (whole : ∀ error ∈ record.verdict.error, Lacks '\n' error) : rowHeight record = 1 := by
  have shown : ∀ error ∈ Sheet.errors record, Text.breaks (Text.trimEnd (shortened error)) = 0 := by
    intro error member
    have free : Lacks '\n' error := by
      unfold Sheet.errors at member
      split at member
      · exact List.mem_singleton.mp member ▸ Sheet.lacks_error (by decide) whole
      · cases member
    rw [Text.breaks_eq_zero_iff, Lacks, Text.trimEnd, String.toList_ofList]
    exact fun inside => lacks_shortened (by decide) free ((List.rdropWhile_prefix _ _).subset inside)
  rw [rowHeight, List.map_congr_left shown, List.map_const', List.sum_replicate]
  rfl

def layout (colour : Bool) (report : Report) : Layout where
  front := heading report
  aboveRows := 4
  aboveIssues := 2
  row := row colour report
  rowHeight := rowHeight
  issueLine := issueLine

theorem breaks_issueLine (region : Lacks '\n' issue.region) : Text.breaks (issueLine issue) + 1 = issue.height := by
  have label : Text.breaks (issueLabel issue.kind) = 0 := by cases issue.kind <;> decide
  have account := breaks_own (Account.isPrintable_name issue.account)
  have kind := breaks_own (Kind.isPrintable_name issue.resourceKind)
  have place := Text.breaks_eq_zero_iff.mpr region
  have gaps : Text.breaks "- [" = 0 ∧ Text.breaks "] " = 0 ∧ Text.breaks " " = 0 ∧ Text.breaks ": " = 0 := by decide
  simp [issueLine, Issue.height, label, account, kind, place, gaps]

theorem intercalate_concat (fields : List String) (last : String) :
    "  ".intercalate (fields ++ [last]) = .join (fields.map (· ++ "  ")) ++ last := by
  induction fields with
  | nil => simp
  | cons field fields ih =>
    obtain ⟨next, more, split⟩ := List.exists_cons_of_ne_nil (l := fields ++ [last]) (by simp)
    rw [List.cons_append, split, String.intercalate_cons_cons, ← split, ih, List.map_cons, String.join_cons,
      String.append_assoc, String.append_assoc, String.append_assoc]

/-- The line breaks of a line are those of its last cell, as far as they are not at its end. -/
theorem breaks_line_concat {front : List String} {last : String} {widths : List Nat}
    (free : ∀ cell ∈ front, Lacks '\n' cell) (same : widths.length = front.length + 1) :
    Text.breaks (line widths (front ++ [last])) = Text.breaks (Text.trimEnd last) := by
  obtain ⟨widths, width, rfl⟩ := (List.eq_nil_or_concat' widths).resolve_left (by rintro rfl; cases same)
  have even : front.length = widths.length := by simpa using same.symm
  -- The spaces that fill the last field are trimmed. If its cell is blank as a whole, trimming goes on before it,
  -- where there is no line break to lose.
  have before : '\n' ∉ (String.join ((List.zipWith padded front widths).map (· ++ "  "))).toList := by
    rw [String.toList_join, List.mem_flatMap]
    rintro ⟨text, member, inside⟩
    obtain ⟨field, joined, rfl⟩ := List.mem_map.mp member
    rw [String.toList_append, List.mem_append] at inside
    exact inside.elim (notMem_fields (by decide) free field joined) (by decide)
  rw [line, List.zipWith_append even, List.zipWith_cons_cons, List.zipWith_nil_left, intercalate_concat, Text.breaks,
    Text.trimEnd, String.toList_ofList, String.toList_append, toList_padded, ← List.append_assoc,
    Text.trimRight_append fun c member => by rw [List.eq_of_mem_replicate member]; rfl,
    Text.trimRight_append_eq, Text.breaks, Text.trimEnd, String.toList_ofList]
  split
  · rename_i none
    rw [none, List.count_nil, List.count_eq_zero]
    exact fun inside => before ((List.rdropWhile_prefix _ _).subset inside)
  · rw [List.count_append, List.count_eq_zero.mpr before, Nat.zero_add]

theorem lacks_styled (colour : Bool) (operation : Operation) (free : Lacks '\n' text) :
    Lacks '\n' (styled colour operation text) := by
  have code : Lacks '\n' (colourCode operation) := by cases operation <;> decide
  cases colour with
  | false => exact free
  | true =>
    rw [styled, if_pos rfl]
    simp only [Text.lacks_append, and_assoc]
    exact ⟨by decide, code, by decide, free, by decide⟩

/-- In front of the error a row has no line break. -/
theorem exists_tableRow (colour : Bool) (free : ∀ text ∈ record.snapshot.texts, Lacks '\n' text) :
    ∃ front, tableRow colour record = front ++ (Sheet.errors record).map shortened ∧
      ∀ cell ∈ front, Lacks '\n' cell := by
  have plain := Sheet.lacks_front (by decide) free
  obtain ⟨rest, front⟩ := Sheet.exists_front record
  rw [front, List.forall_mem_cons] at plain
  obtain ⟨label, plain⟩ := plain
  refine ⟨styled colour record.verdict.operation (shortened record.label) :: rest.map shortened, ?_, ?_⟩
  · rw [tableRow, Sheet.cells_eq, front]
    simp
  · rw [List.forall_mem_cons, List.forall_mem_map]
    exact ⟨lacks_styled colour _ (lacks_shortened (by decide) label),
      fun cell member => lacks_shortened (by decide) (plain cell member)⟩

theorem length_tableRow (colour : Bool) (record : Record) :
    (tableRow colour record).length = (Sheet.headings record.kind).length := by
  rw [tableRow_eq, List.length_cons, List.length_map, ← Sheet.length_cells, Sheet.cells_eq_cons record]
  rfl

theorem breaks_row (colour : Bool) (free : ∀ text ∈ record.snapshot.texts, Lacks '\n' text) :
    Text.breaks (row colour report record.kind record) + 1 = rowHeight record := by
  have even : ∀ row ∈ (report.recordsOf record.kind).map (tableRow colour),
      row.length = (Sheet.headings record.kind).length := by
    refine List.forall_mem_map.mpr fun other among => ?_
    rw [length_tableRow, of_decide_eq_true (List.mem_filter.mp among).2]
  have wide := (length_columnWidths even).trans (length_tableRow colour record).symm
  obtain ⟨front, split, plain⟩ := exists_tableRow colour free
  rw [row, rowHeight]
  rw [split] at wide ⊢
  unfold Sheet.errors at wide ⊢
  split
  · rename_i shown
    rw [if_pos shown, List.length_append] at wide
    rw [List.map_singleton, breaks_line_concat plain wide, List.map_singleton, List.sum_singleton]
  · rw [List.map_nil, List.append_nil, List.map_nil, List.sum_nil]
    exact congrArg (· + 1) (Text.breaks_eq_zero_iff.mpr (notMem_line (by decide) plain))

/-- On a terminal a record takes more than one line where its error does. -/
theorem laid_reportText (colour : Bool)
    (free : ∀ record ∈ report.records, ∀ text ∈ record.snapshot.texts, Lacks '\n' text)
    (regions : ∀ issue ∈ report.summary.issues, Lacks '\n' issue.region) :
    Laid report (layout colour report) (reportText colour report) := by
  have own {text : String} (printable : Text.isPrintable text = true) : Lacks '\n' text :=
    Text.lacks_of_isPrintable (by decide) printable
  refine laid_unlines (layout colour report) (fun kind => ?_) (fun kind record member => ?_) ?_
    fun issue member => breaks_issueLine (regions issue member)
  · exact ⟨above _ kind _, rfl, lacks_above (by decide) _ kind _, sheet_eq colour report kind⟩
  · obtain ⟨inside, same⟩ := List.mem_filter.mp member
    obtain rfl := of_decide_eq_true same
    exact breaks_row colour (free record inside)
  · rw [issues]
    cases none : report.summary.issues.isEmpty with
    | true => exact ⟨[], rfl, by simp, by rw [List.isEmpty_iff.mp none]; rfl⟩
    | false =>
      refine ⟨["", "issues (" ++ toString report.summary.issues.length ++ "):"], rfl, ?_, rfl⟩
      simp only [List.forall_mem_cons, Text.lacks_append, and_assoc]
      exact ⟨by decide, by decide, own (Text.isPrintable_toString _), by decide, by simp⟩

end Terminal
end Retention
