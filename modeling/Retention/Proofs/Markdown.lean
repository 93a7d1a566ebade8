import Mathlib.Data.List.Forall2
import Retention.Proofs.Sheet
import Retention.Proofs.Targets
import Retention.Proofs.Text
import Retention.Report.Markdown

/-!
The tables of a report in markdown. A row is taken apart again at its delimiters, which are the pipes without
a backslash right before them: a pipe of a cell has one, and the blank behind a cell keeps a backslash at its
end from the next delimiter. So every record can be read in its table, but for the line feeds of its cells.
-/
namespace Retention
namespace Markdown

/-! Reading a row. -/

/-- The pieces between delimiters, where the character before may be a backslash. -/
def piecesFrom (escaping : Bool) : List Char → List (List Char)
  | [] => [[]]
  | c :: rest =>
    if c = '|' && !escaping then [] :: piecesFrom false rest
    else (piecesFrom (c = '\\') rest).modifyHead (c :: ·)

/-- The pieces of a line between the pipes that have no backslash right before them. -/
def pieces (line : String) : List String := (piecesFrom false line.toList).map .ofList

/-- A pipe with a backslash right before it stands for a pipe. -/
def unescapedChars : List Char → List Char
  | '\\' :: '|' :: rest => '|' :: unescapedChars rest
  | c :: rest => c :: unescapedChars rest
  | [] => []

def unescaped (text : String) : String := .ofList (unescapedChars text.toList)

/-- The text with a space for each line feed. -/
def flattened (text : String) : String := .ofList (text.toList.map fun c => if c = '\n' then ' ' else c)

/-- The line holds the cells between its outer delimiters, each between two spaces. -/
def Holds (line : String) (cells : List String) : Prop :=
  pieces line = "" :: cells.map (fun cell => " " ++ cell ++ " ") ++ [""]

/-- The line shows the record: a cell under each heading of its kind, with what the record has for the heading. -/
def Shows (record : Record) (line : String) : Prop :=
  ∃ cells, Holds line cells ∧ cells.length = (Sheet.headings record.kind).length ∧
    cells.map unescaped = (Sheet.cells record).map flattened ∧
    List.Forall₂ (fun heading cell => (Sheet.under? record heading).map flattened = some (unescaped cell))
      (Sheet.headings record.kind) cells

/-- The lines of a table: a title, the headings of the kind, a rule, and a line for each record. -/
inductive Tabulates (kind : Kind) (records : List Record) : List String → Prop
  | intro {header rows} (headed : Holds header (Sheet.headings kind))
      (shown : List.Forall₂ Shows records rows) :
      Tabulates kind records
        (["", "## " ++ kind.sheetName, "", header, rule (Sheet.headings kind).length] ++ rows)

/-! Cells. -/

section Cells

variable {text rest : List Char}

/-- No character of a cell is a delimiter in the line, whatever stands before it. -/
theorem piecesFrom_escapedChar (escaping : Bool) (c : Char) :
    ∃ after, ∀ rest, piecesFrom escaping (escapedChar c ++ rest) =
      (piecesFrom after rest).modifyHead (escapedChar c ++ ·) := by
  unfold escapedChar
  split
  · refine ⟨false, fun rest => ?_⟩
    simp [piecesFrom, List.modifyHead_modifyHead, Function.comp_def]
  · exact ⟨false, fun rest => by simp [piecesFrom]⟩
  · rename_i pipe _
    refine ⟨c = '\\', fun rest => ?_⟩
    have plain : c ≠ '|' := pipe
    simp [piecesFrom, plain]

theorem piecesFrom_escaped (escaping : Bool) (text : List Char) :
    ∃ after, ∀ rest, piecesFrom escaping (text.flatMap escapedChar ++ rest) =
      (piecesFrom after rest).modifyHead (text.flatMap escapedChar ++ ·) := by
  induction text generalizing escaping with
  | nil => exact ⟨escaping, fun rest => (congrFun List.modifyHead_id _).symm⟩
  | cons c text ih =>
    obtain ⟨middle, first⟩ := piecesFrom_escapedChar escaping c
    obtain ⟨after, later⟩ := ih middle
    refine ⟨after, fun rest => ?_⟩
    rw [List.flatMap_cons, List.append_assoc, first, later, List.modifyHead_modifyHead]
    simp [Function.comp_def]

/-- The space behind a cell keeps what the cell ends in from the delimiter. -/
theorem piecesFrom_padded (text rest : List Char) :
    piecesFrom false (' ' :: (text.flatMap escapedChar ++ [' ', '|']) ++ rest) =
      (' ' :: (text.flatMap escapedChar ++ [' '])) :: piecesFrom false rest := by
  obtain ⟨after, cell⟩ := piecesFrom_escaped false text
  have opening : piecesFrom false (' ' :: (text.flatMap escapedChar ++ (' ' :: '|' :: rest))) =
      (piecesFrom false (text.flatMap escapedChar ++ (' ' :: '|' :: rest))).modifyHead (' ' :: ·) := by
    simp [piecesFrom]
  have closing : piecesFrom after (' ' :: '|' :: rest) = [' '] :: piecesFrom false rest := by
    simp [piecesFrom]
  simp [opening, cell, closing]

theorem piecesFrom_row (cells : List (List Char)) :
    piecesFrom false (cells.flatMap fun cell => ' ' :: (cell.flatMap escapedChar ++ [' ', '|'])) =
      cells.map (fun cell => ' ' :: (cell.flatMap escapedChar ++ [' '])) ++ [[]] := by
  induction cells with
  | nil => rfl
  | cons cell cells ih => rw [List.flatMap_cons, piecesFrom_padded, ih, List.map_cons, List.cons_append]

/-- What stands before a cell that is written never makes a backslash of it part of a pipe. -/
theorem unescapedChars_cons {c : Char} (apart : rest.head? ≠ some '|') :
    unescapedChars (c :: rest) = c :: unescapedChars rest := by
  cases rest with
  | nil => rw [unescapedChars]; simp
  | cons d rest =>
    have plain : d ≠ '|' := fun same => apart (by rw [same]; rfl)
    rw [unescapedChars]
    rintro _ rfl same
    cases same
    exact plain rfl

theorem head?_escaped (text : List Char) : (text.flatMap escapedChar).head? ≠ some '|' := by
  cases text with
  | nil => simp
  | cons c text =>
    rw [List.flatMap_cons]
    unfold escapedChar
    split <;> simp_all

theorem unescapedChars_escaped (text : List Char) :
    unescapedChars (text.flatMap escapedChar) = text.map fun c => if c = '\n' then ' ' else c := by
  induction text with
  | nil => rfl
  | cons c text ih =>
    rw [List.flatMap_cons, List.map_cons, ← ih]
    have apart := head?_escaped text
    unfold escapedChar
    split
    · rfl
    · exact unescapedChars_cons apart
    · rename_i feed
      rw [if_neg feed]
      exact unescapedChars_cons apart

theorem unescaped_escaped (cell : String) : unescaped (escaped cell) = flattened cell := by
  simp [unescaped, escaped, flattened, unescapedChars_escaped]

end Cells

/-! Rows. -/

section Rows

variable {cells : List String} {kind : Kind}

theorem toList_tableRow (filled : cells ≠ []) :
    (tableRow cells).toList = '|' :: cells.flatMap fun cell => ' ' :: (cell.toList ++ [' ', '|']) := by
  have joined (cell : List Char) (cells : List (List Char)) :
      ' ' :: ([' ', '|', ' '].intercalate (cell :: cells) ++ [' ', '|']) =
        (cell :: cells).flatMap fun cell => ' ' :: (cell ++ [' ', '|']) := by
    induction cells generalizing cell with
    | nil => simp
    | cons next cells ih => simp [List.intercalate_cons_cons, ← ih]
  obtain ⟨cell, cells, rfl⟩ := List.exists_cons_of_ne_nil filled
  have whole := joined cell.toList (cells.map String.toList)
  simpa [tableRow, String.toList_intercalate, List.flatMap_map] using whole

theorem holds_tableRow (filled : cells ≠ []) :
    Holds (tableRow (cells.map escaped)) (cells.map escaped) := by
  have row := piecesFrom_row (cells.map String.toList)
  have opening (rest : List Char) : piecesFrom false ('|' :: rest) = [] :: piecesFrom false rest := by
    simp [piecesFrom]
  have written : (cells.map escaped).flatMap (fun cell => ' ' :: (cell.toList ++ [' ', '|'])) =
      (cells.map String.toList).flatMap fun cell => ' ' :: (cell.flatMap escapedChar ++ [' ', '|']) := by
    simp [List.flatMap_map, escaped]
  rw [Holds, pieces, toList_tableRow (by simpa using filled), written, opening, row]
  simp [escaped, Function.comp_def, ← String.toList_inj]

theorem escaped_headings (kind : Kind) : (Sheet.headings kind).map escaped = Sheet.headings kind := by
  cases kind <;> decide

theorem holds_headings (kind : Kind) : Holds (tableRow (Sheet.headings kind)) (Sheet.headings kind) := by
  have held := holds_tableRow (Sheet.headings_ne_nil kind)
  rwa [escaped_headings] at held

theorem shows_tableRow (record : Record) : Shows record (tableRow ((Sheet.cells record).map escaped)) := by
  refine ⟨_, holds_tableRow (Sheet.cells_ne_nil record), ?_, ?_, ?_⟩
  · rw [List.length_map, Sheet.length_cells]
  · rw [List.map_map]
    exact List.map_congr_left fun cell _ => unescaped_escaped cell
  · rw [List.forall₂_map_right_iff]
    apply (Sheet.forall₂_under record).imp
    intro heading cell here
    rw [here, Option.map_some, unescaped_escaped]

end Rows

/-! Lines. -/

section Lines

theorem feed_notMem_escaped (cell : String) : '\n' ∉ (escaped cell).toList := by
  rw [escaped, String.toList_ofList, List.mem_flatMap]
  rintro ⟨c, -, inside⟩
  unfold escapedChar at inside
  split at inside
  · simp at inside
  · simp at inside
  · rename_i feed
    exact feed (List.mem_singleton.mp inside).symm

theorem feed_notMem_tableRow {cells : List String} (filled : cells ≠ []) :
    '\n' ∉ (tableRow (cells.map escaped)).toList := by
  rw [toList_tableRow (by simpa using filled), List.flatMap_map]
  simp [feed_notMem_escaped]

theorem feed_notMem_rule (columns : Nat) : '\n' ∉ (rule columns).toList := by
  rw [rule, String.toList_append, String.toList_join]
  intro inside
  rcases List.mem_append.mp inside with bar | dashes
  · simp at bar
  · obtain ⟨line, member, inside⟩ := List.mem_flatMap.mp dashes
    rw [(List.mem_replicate.mp member).2] at inside
    simp at inside

theorem feed_notMem_sheet {report : Report} {kind : Kind} :
    ∀ line ∈ sheet report kind, '\n' ∉ line.toList := by
  have title : '\n' ∉ ("## " ++ kind.sheetName).toList := by cases kind <;> decide
  have header := feed_notMem_tableRow (Sheet.headings_ne_nil kind)
  rw [escaped_headings] at header
  simp only [sheet, List.forall_mem_append, List.forall_mem_cons, List.forall_mem_map, List.not_mem_nil,
    false_imp_iff, implies_true, and_true]
  refine ⟨⟨by decide, title, by decide, header, feed_notMem_rule _⟩, fun record _ => ?_⟩
  exact feed_notMem_tableRow (Sheet.cells_ne_nil record)

end Lines

/-! Documents. -/

theorem tabulates_sheet (report : Report) (kind : Kind) :
    Tabulates kind (report.recordsOf kind) (sheet report kind) := by
  refine .intro (holds_headings kind) (List.forall₂_map_right_iff.mpr ?_)
  exact List.forall₂_same.mpr fun record _ => shows_tableRow record

theorem splitOn_document (report : Report) : Text.splitOn '\n' (document report) =
    (facts report).flatMap (Text.splitOn '\n') ++ report.kindsPresent.flatMap (sheet report) ++
      (issues report).flatMap (Text.splitOn '\n') ++ [""] := by
  have whole : ∀ line ∈ report.kindsPresent.flatMap (sheet report), '\n' ∉ line.toList := by
    intro line member
    obtain ⟨kind, -, inside⟩ := List.mem_flatMap.mp member
    exact feed_notMem_sheet line inside
  rw [document, Text.splitOn_unlines, List.flatMap_append, List.flatMap_append, Text.flatMap_splitOn whole]

/-- Items taken apart by a key are the same items, if the keys are all there and none of them twice. -/
theorem flatMap_filter_perm {α κ : Type} [DecidableEq κ] (key : α → κ) {keys : List κ}
    (distinct : keys.Nodup) {items : List α} (every : ∀ item ∈ items, key item ∈ keys) :
    (keys.flatMap fun one => items.filter (key · = one)).Perm items := by
  induction keys generalizing items with
  | nil =>
    rw [List.eq_nil_iff_forall_not_mem.mpr fun item member => List.not_mem_nil (every item member)]
    exact .nil
  | cons one keys ih =>
    obtain ⟨fresh, distinct⟩ := List.nodup_cons.mp distinct
    have others : ∀ item ∈ items.filter (fun item => !decide (key item = one)), key item ∈ keys := by
      intro item member
      obtain ⟨inside, apart⟩ := List.mem_filter.mp member
      exact (List.mem_cons.mp (every item inside)).resolve_left (by simpa using apart)
    have later : (keys.flatMap fun other => items.filter (key · = other)) =
        keys.flatMap fun other =>
          (items.filter fun item => !decide (key item = one)).filter (key · = other) := by
      refine List.flatMap_congr fun other member => ?_
      rw [List.filter_filter]
      refine List.filter_congr fun item _ => ?_
      by_cases same : key item = other
      · have apart : other ≠ one := fun equal => fresh (equal ▸ member)
        simp [same, apart]
      · simp [same]
    rw [List.flatMap_cons, later]
    exact ((ih distinct others).append_left _).trans (List.filter_append_perm _ _)

theorem mem_kindsPresent_iff {report : Report} {kind : Kind} :
    kind ∈ report.kindsPresent ↔ ∃ record ∈ report.records, record.kind = kind := by
  simp [Report.kindsPresent, Report.recordsOf, Kind.mem_all]

/-- Split at its line feeds, a report in markdown has a table for each kind of its records, in the order of
the kinds, and in it a line for each record of the kind, in the order of the report. So each record is in one
line, and from the line its cells can be read, each with what its heading is for. -/
theorem document_tabulates (report : Report) : ∃ (kinds : List Kind) (tables : List (List String)),
    kinds.Pairwise (· < ·) ∧
    (∀ kind, kind ∈ kinds ↔ ∃ record ∈ report.records, record.kind = kind) ∧
    List.Forall₂ (fun kind table => Tabulates kind (report.records.filter (·.kind = kind)) table)
      kinds tables ∧
    (kinds.flatMap fun kind => report.records.filter (·.kind = kind)).Perm report.records ∧
    Text.splitOn '\n' (document report) = (facts report).flatMap (Text.splitOn '\n') ++ tables.flatten ++
      (issues report).flatMap (Text.splitOn '\n') ++ [""] := by
  have ascending : report.kindsPresent.Pairwise (· < ·) := Kind.all_ascending.filter _
  refine ⟨report.kindsPresent, report.kindsPresent.map (sheet report), ascending,
    fun kind => mem_kindsPresent_iff, ?_, ?_, ?_⟩
  · refine List.forall₂_map_right_iff.mpr (List.forall₂_same.mpr fun kind _ => ?_)
    exact tabulates_sheet report kind
  · exact flatMap_filter_perm Record.kind (Kind.nodup_of_ascending ascending) fun record member =>
      mem_kindsPresent_iff.mpr ⟨record, member, rfl⟩
  · simp only [splitOn_document, List.flatMap_def]

/-- Cells that end in a backslash, hold a pipe behind one, or hold nothing. -/
example : pieces (tableRow (["a\\", "b\\|c\n|", ""].map escaped)) =
    ["", " a\\ ", " b\\\\|c \\| ", "  ", ""] := by
  decide +kernel

end Markdown
end Retention
