import Mathlib.Order.Bounds.Basic
import Retention.Proofs.Colour
import Retention.Proofs.Text

/-!
Tables whose columns stand under each other. A column is as wide as the widest of its cells, so every cell has
room in it and is filled up with spaces to the width of the column. What stands before a column therefore takes
the same room in all lines. Only blanks at the end of a line are lost.
-/
namespace Retention
namespace Table

open Colour

/-- What stands before the column of this number. -/
def before (fields : List String) (column : Nat) : String :=
  .join ((fields.take column).map (· ++ "  "))

/-- How many columns the cells in one place take. -/
def takenAt (rows : List (List String)) (column : Nat) : Set Nat :=
  {n | ∃ cells ∈ rows, ∃ cell, cells[column]? = some cell ∧ Takes cell.toList n}

/-- Nothing in the cell breaks the line, and its escapes are those of colour sequences. -/
def Sound (cell : String) : Prop := '\n' ∉ cell.toList ∧ ∃ seen, Seen cell.toList seen

/-- The line shows the cells, each in a field that spaces fill up to the width of its column. The fields are two
spaces apart, and the line lacks nothing of them but the blanks at the end. -/
inductive Aligned (widths : List Nat) (cells : List String) (line : String) : Prop
  | intro {fields : List String} {blanks : String}
      (filled : List.Forall₂ (fun cell field => ∃ n, field = cell ++ .ofList (List.replicate n ' ')) cells fields)
      (fitted : List.Forall₂ (fun field width => Takes field.toList width) fields widths)
      (whole : "  ".intercalate fields = line ++ blanks)
      (blank : ∀ c ∈ blanks.toList, Text.isBlank c = true)
      (trimmed : ∀ c ∈ line.toList.getLast?, Text.isBlank c = false)
      (placed : ∀ column cell, cells[column]? = some cell →
        (∃ rest, line ++ blanks = before fields column ++ cell ++ rest) ∧
          Takes (before fields column).toList ((widths.take column).map (· + 2)).sum)

variable {cell : String} {cells headings row : List String} {rows : List (List String)} {widths : List Nat}
  {width : Nat}

/-! Fields. -/

section Fields

/-- The cell has room in a column of this width. -/
def Fits (cell : String) (width : Nat) : Prop := ∃ columns ≤ width, Takes cell.toList columns

theorem toList_padded (cell : String) (width : Nat) : (padded cell width).toList =
    cell.toList ++ List.replicate (width - cellWidth cell) ' ' :=
  Text.toList_pushn cell ' ' _

theorem takes_padded (fits : Fits cell width) : Takes (padded cell width).toList width := by
  obtain ⟨columns, room, takes⟩ := fits
  have spaces := takes_replicate (c := ' ') (by decide) (by decide) (width - columns)
  have filled := takes.append spaces
  rwa [Nat.add_sub_cancel' room, ← takes.width_eq, ← cellWidth, ← toList_padded] at filled

theorem forall₂_padded (same : cells.length = widths.length) :
    List.Forall₂ (fun cell field => ∃ n, field = cell ++ .ofList (List.replicate n ' ')) cells
      (List.zipWith padded cells widths) := by
  induction cells generalizing widths with
  | nil => simp
  | cons cell cells ih =>
    obtain ⟨width, widths, rfl⟩ := List.exists_cons_of_length_eq_add_one same.symm
    refine .cons ⟨width - cellWidth cell, ?_⟩ (ih (Nat.succ.inj same))
    rw [← String.toList_inj, toList_padded, String.toList_append, String.toList_ofList]

theorem forall₂_takes (fits : List.Forall₂ Fits cells widths) :
    List.Forall₂ (fun field width => Takes field.toList width) (List.zipWith padded cells widths) widths := by
  induction fits with
  | nil => exact .nil
  | cons first _ ih => exact .cons (takes_padded first) ih

theorem toList_before_succ (field : String) (fields : List String) (column : Nat) :
    (before (field :: fields) (column + 1)).toList =
      field.toList ++ ([' ', ' '] ++ (before fields column).toList) := by
  simp [before]

theorem takes_before {fields : List String}
    (fitted : List.Forall₂ (fun field width => Takes field.toList width) fields widths) (column : Nat) :
    Takes (before fields column).toList ((widths.take column).map (· + 2)).sum := by
  induction fitted generalizing column with
  | nil => simpa [before] using takes_replicate (c := ' ') (by decide) (by decide) 0
  | cons first _ ih =>
    cases column with
    | zero => simpa [before] using takes_replicate (c := ' ') (by decide) (by decide) 0
    | succ column =>
      have gap := takes_replicate (c := ' ') (by decide) (by decide) 2
      rw [toList_before_succ, List.take_succ_cons, List.map_cons, List.sum_cons, Nat.add_assoc]
      exact first.append (gap.append (ih column))

theorem exists_intercalate {fields : List String} {column : Nat} {field : String}
    (here : fields[column]? = some field) :
    ∃ rest, "  ".intercalate fields = before fields column ++ field ++ rest := by
  induction fields generalizing column with
  | nil => cases here
  | cons first fields ih =>
    cases column with
    | zero =>
      cases here
      cases fields with
      | nil => exact ⟨"", by simp [before]⟩
      | cons next fields => exact ⟨"  " ++ "  ".intercalate (next :: fields), by simp [before, String.append_assoc]⟩
    | succ column =>
      obtain ⟨rest, split⟩ := ih here
      obtain ⟨next, fields, rfl⟩ := List.exists_cons_of_ne_nil (l := fields) (by rintro rfl; cases here)
      refine ⟨rest, ?_⟩
      rw [String.intercalate_cons_cons, split, ← String.toList_inj]
      simp only [String.toList_append, toList_before_succ, List.append_assoc]
      rfl

/-- A line whose cells have room in their columns is aligned. -/
theorem aligned_line (fits : List.Forall₂ Fits cells widths) : Aligned widths cells (line widths cells) := by
  obtain ⟨blanks, whole, blank, trimmed⟩ :=
    Text.exists_trimRight ("  ".intercalate (List.zipWith padded cells widths)).toList
  have same := fits.length_eq
  have joined : "  ".intercalate (List.zipWith padded cells widths) = line widths cells ++ .ofList blanks := by
    rw [← String.toList_inj, String.toList_append, line, Text.trimEnd, String.toList_ofList,
      String.toList_ofList, whole]
  refine .intro (forall₂_padded same) (forall₂_takes fits) joined (by simpa using blank)
    (by simpa [line, Text.trimEnd] using trimmed) ?_
  intro column cell here
  refine ⟨?_, takes_before (forall₂_takes fits) column⟩
  obtain ⟨inside, rfl⟩ := List.getElem?_eq_some_iff.mp here
  obtain ⟨width, wide⟩ : ∃ width, widths[column]? = some width :=
    ⟨_, List.getElem?_eq_getElem (same ▸ inside)⟩
  have field : (List.zipWith padded cells widths)[column]? = some (padded cells[column] width) :=
    List.getElem?_zipWith_eq_some.mpr ⟨_, _, List.getElem?_eq_getElem inside, wide, rfl⟩
  obtain ⟨rest, split⟩ := exists_intercalate field
  refine ⟨.ofList (List.replicate (width - cellWidth cells[column]) ' ') ++ rest, ?_⟩
  rw [← joined, split, ← String.toList_inj]
  simp [toList_padded]

end Fields

/-! Widths. -/

section Widths

/-- What the cells in one place measure. -/
def widthsAt (rows : List (List String)) (column : Nat) : Set Nat :=
  {n | ∃ cells ∈ rows, ∃ cell, cells[column]? = some cell ∧ cellWidth cell = n}

theorem widthsAt_concat (rows : List (List String)) {column : Nat} (present : row[column]? = some cell) :
    widthsAt (rows ++ [row]) column = insert (cellWidth cell) (widthsAt rows column) := by
  ext n
  constructor
  · intro inside
    obtain ⟨cells, member, found⟩ := inside
    rcases List.mem_append.mp member with earlier | last
    · exact .inr ⟨cells, earlier, found⟩
    · obtain ⟨other, found, measured⟩ := found
      rw [List.mem_singleton.mp last, present] at found
      cases found
      exact .inl measured.symm
  · intro inside
    rcases inside with rfl | earlier
    · exact ⟨row, List.mem_append_right _ List.mem_cons_self, cell, present, rfl⟩
    · obtain ⟨cells, member, found⟩ := earlier
      exact ⟨cells, List.mem_append_left _ member, found⟩

theorem widen_eq (same : row.length = widths.length) :
    widen widths row = List.zipWith max widths (row.map cellWidth) := by
  induction widths generalizing row with
  | nil => rw [List.eq_nil_of_length_eq_zero same]; rfl
  | cons width widths ih =>
    obtain ⟨cell, row, rfl⟩ := List.exists_cons_of_length_eq_add_one same
    rw [widen, ih (Nat.succ.inj same), List.map_cons, List.zipWith_cons_cons]

theorem columnWidths_concat (headings : List String) (rows : List (List String)) (row : List String) :
    columnWidths headings (rows ++ [row]) = widen (columnWidths headings rows) row := by
  rw [columnWidths, List.foldl_append]
  rfl

theorem length_columnWidths (even : ∀ row ∈ rows, row.length = headings.length) :
    (columnWidths headings rows).length = headings.length := by
  induction rows using List.reverseRecOn with
  | nil => exact List.length_map _
  | append_singleton rows row ih =>
    obtain ⟨earlier, last⟩ := List.forall_mem_append.mp even
    have same := ih earlier
    have here := last row List.mem_cons_self
    rw [columnWidths_concat, widen_eq (here.trans same.symm), List.length_zipWith, List.length_map, same, here,
      Nat.min_self]

/-- A column is as wide as the widest cell in it. -/
theorem isGreatest_columnWidths (even : ∀ row ∈ rows, row.length = headings.length) {column : Nat}
    (here : (columnWidths headings rows)[column]? = some width) :
    IsGreatest (widthsAt (headings :: rows) column) width := by
  induction rows using List.reverseRecOn generalizing width with
  | nil =>
    rw [columnWidths, List.foldl_nil, List.getElem?_map] at here
    obtain ⟨cell, present, rfl⟩ := Option.map_eq_some_iff.mp here
    have alone : widthsAt [headings] column = {cellWidth cell} := by
      ext n
      simp [widthsAt, present, eq_comm]
    rw [alone]
    exact isGreatest_singleton
  | append_singleton rows row ih =>
    obtain ⟨earlier, last⟩ := List.forall_mem_append.mp even
    have same := (last row List.mem_cons_self).trans (length_columnWidths earlier).symm
    rw [columnWidths_concat, widen_eq same, List.getElem?_zipWith_eq_some] at here
    obtain ⟨before, own, found, measured, rfl⟩ := here
    rw [List.getElem?_map] at measured
    obtain ⟨cell, present, rfl⟩ := Option.map_eq_some_iff.mp measured
    have more : widthsAt (headings :: (rows ++ [row])) column =
        insert (cellWidth cell) (widthsAt (headings :: rows) column) :=
      widthsAt_concat (headings :: rows) present
    rw [more, max_comm]
    exact (ih earlier found).insert _

theorem takenAt_eq (sound : ∀ cells ∈ rows, ∀ cell ∈ cells, Sound cell) (column : Nat) :
    takenAt rows column = widthsAt rows column := by
  ext n
  refine exists_congr fun cells => and_congr_right fun member => exists_congr fun cell =>
    and_congr_right fun present => ⟨Takes.width_eq, ?_⟩
  rintro rfl
  obtain ⟨-, seen, sees⟩ := sound cells member cell (List.mem_of_getElem? present)
  exact sees.takes

theorem fits_columnWidths (even : ∀ row ∈ rows, row.length = headings.length)
    (sound : ∀ cell ∈ cells, Sound cell) (member : cells ∈ headings :: rows) :
    List.Forall₂ Fits cells (columnWidths headings rows) := by
  have same : cells.length = (columnWidths headings rows).length := by
    rw [length_columnWidths even]
    rcases List.mem_cons.mp member with rfl | later
    · rfl
    · exact even cells later
  refine List.forall₂_iff_get.mpr ⟨same, fun column inside inside' => ?_⟩
  have greatest := isGreatest_columnWidths even (List.getElem?_eq_getElem inside')
  obtain ⟨-, seen, sees⟩ := sound _ (List.getElem_mem inside)
  exact ⟨_, greatest.2 ⟨cells, member, _, List.getElem?_eq_getElem inside, rfl⟩, sees.takes⟩

theorem fits_rule (widths : List Nat) : List.Forall₂ Fits (rule widths) widths := by
  rw [rule, List.forall₂_map_left_iff, List.forall₂_same]
  intro width _
  refine ⟨width, le_refl width, ?_⟩
  rw [Text.toList_pushn]
  exact takes_replicate (by decide) (by decide) width

end Widths

/-! Lines. -/

section Lines

theorem notMem_fields {c : Char} (other : c ≠ ' ') (free : ∀ cell ∈ cells, c ∉ cell.toList) :
    ∀ field ∈ List.zipWith padded cells widths, c ∉ field.toList := by
  intro field member inside
  rw [← List.map_uncurry_zip_eq_zipWith] at member
  obtain ⟨⟨cell, width⟩, paired, rfl⟩ := List.mem_map.mp member
  rw [Function.uncurry_apply_pair, toList_padded] at inside
  rcases List.mem_append.mp inside with own | space
  · exact free cell (List.of_mem_zip paired).1 own
  · exact other (List.eq_of_mem_replicate space)

/-- A line brings in no character but spaces. -/
theorem notMem_line {c : Char} (other : c ≠ ' ') (free : ∀ cell ∈ cells, c ∉ cell.toList) :
    c ∉ (line widths cells).toList := by
  intro inside
  rw [line, Text.trimEnd, String.toList_ofList, Text.trimRight_eq] at inside
  exact Text.notMem_intercalate (by simpa using other) (notMem_fields other free)
    ((List.rdropWhile_prefix _ _).subset inside)

theorem notMem_rule {c : Char} (other : c ≠ '-') : ∀ cell ∈ rule widths, c ∉ cell.toList := by
  intro cell member inside
  obtain ⟨width, -, rfl⟩ := List.mem_map.mp member
  rw [Text.toList_pushn] at inside
  exact other (List.eq_of_mem_replicate inside)

/-- A table is printed as its headings, a rule, and a line for each row, all of them aligned to columns that are
as wide as the widest of their cells. -/
theorem lines_aligned (even : ∀ row ∈ rows, row.length = headings.length)
    (sound : ∀ cells ∈ headings :: rows, ∀ cell ∈ cells, Sound cell) :
    ∃ (widths : List Nat) (header rule : String) (body : List String),
      widths.length = headings.length ∧
      (∀ column width, widths[column]? = some width → IsGreatest (takenAt (headings :: rows) column) width) ∧
      Text.splitOn '\n' (Text.unlines (lines headings rows)) = header :: rule :: body ++ [""] ∧
      Aligned widths headings header ∧
      Aligned widths (widths.map fun width => .ofList (List.replicate width '-')) rule ∧
      List.Forall₂ (Aligned widths) rows body := by
  let widths := columnWidths headings rows
  have fits (cells : List String) (member : cells ∈ headings :: rows) : List.Forall₂ Fits cells widths :=
    fits_columnWidths even (sound cells member) member
  have dashes : rule widths = widths.map fun width => .ofList (List.replicate width '-') := by
    refine List.map_congr_left fun width _ => ?_
    rw [← String.toList_inj, Text.toList_pushn, String.toList_ofList (l := List.replicate width '-')]
    exact List.nil_append _
  have unbroken : ∀ text ∈ lines headings rows, '\n' ∉ text.toList := by
    have each (cells : List String) (member : cells ∈ headings :: rows) : '\n' ∉ (line widths cells).toList :=
      notMem_line (by decide) fun cell inside => (sound cells member cell inside).1
    intro text member
    rcases List.mem_cons.mp member with rfl | later
    · exact each headings List.mem_cons_self
    · rcases List.mem_cons.mp later with rfl | later
      · exact notMem_line (by decide) (notMem_rule (by decide))
      · obtain ⟨row, inside, rfl⟩ := List.mem_map.mp later
        exact each row (List.mem_cons_of_mem _ inside)
  refine ⟨widths, line widths headings, line widths (rule widths), rows.map (line widths),
    length_columnWidths even, ?_, ?_, aligned_line (fits headings List.mem_cons_self), ?_, ?_⟩
  · intro column width here
    rw [takenAt_eq sound]
    exact isGreatest_columnWidths even here
  · rw [Text.splitOn_unlines, Text.flatMap_splitOn unbroken]
    rfl
  · rw [← dashes]
    exact aligned_line (fits_rule widths)
  · refine List.forall₂_map_right_iff.mpr (List.forall₂_same.mpr fun row inside => ?_)
    exact aligned_line (fits row (List.mem_cons_of_mem _ inside))

/-- A table with a coloured cell and with characters that take two columns. -/
theorem lines_aligned_coloured :
    let headings := ["Kind", "Policy"]
    let rows := [["タグ", "x"], ["\x1b[31mVolumes\x1b[0m", ""]]
    lines headings rows = ["Kind     Policy", "-------  ------", "タグ     x", "\x1b[31mVolumes\x1b[0m"] ∧
    ∃ (widths : List Nat) (header rule : String) (body : List String),
      widths.length = headings.length ∧
      (∀ column width, widths[column]? = some width → IsGreatest (takenAt (headings :: rows) column) width) ∧
      Text.splitOn '\n' (Text.unlines (lines headings rows)) = header :: rule :: body ++ [""] ∧
      Aligned widths headings header ∧
      Aligned widths (widths.map fun width => .ofList (List.replicate width '-')) rule ∧
      List.Forall₂ (Aligned widths) rows body := by
  intro headings rows
  have plain {cell : String} (printable : cell.toList.all fun c => c ≠ '\n' && c ≠ '\x1b') : Sound cell := by
    rw [List.all_eq_true] at printable
    refine ⟨fun feed => ?_, _, seen_of_notMem fun escape => ?_⟩
    · simpa using printable _ feed
    · simpa using printable _ escape
  have coloured : Sound "\x1b[31mVolumes\x1b[0m" := by
    refine ⟨by decide, "Volumes".toList, ?_⟩
    have opening : Seen ['\x1b', '[', '3', '1', 'm'] [] := @seen_sequence ['3', '1'] (by decide)
    have closing : Seen ['\x1b', '[', '0', 'm'] [] := @seen_sequence ['0'] (by decide)
    have label : Seen "Volumes".toList "Volumes".toList := seen_of_notMem (by decide)
    exact (opening.append label).append closing
  refine ⟨by decide +kernel, lines_aligned (by decide) ?_⟩
  simp only [headings, rows, List.forall_mem_cons, List.not_mem_nil, false_imp_iff, implies_true, and_true]
  exact ⟨⟨plain (by decide), plain (by decide)⟩, ⟨plain (by decide), plain (by decide)⟩, coloured, plain (by decide)⟩

end Lines
end Table
end Retention
