import Retention.Text.Width

/-!
Tables of aligned columns. A column is as wide as its widest cell on a terminal, where colour sequences
take no room; columns are two spaces apart, and blanks at the end of a line are dropped.
-/
namespace Retention
namespace Table

/-- What stands behind the next `m`. -/
def afterSequence : List Char → List Char
  | [] => []
  | c :: rest => if c = 'm' then rest else afterSequence rest

theorem length_afterSequence_le (text : List Char) : (afterSequence text).length ≤ text.length := by
  induction text with
  | nil => simp [afterSequence]
  | cons c rest ih =>
    unfold afterSequence
    split
    · simp
    · simp; omega

/-- Display width, without the sequences from an escape and an opening bracket to the next `m`. -/
def width : List Char → Nat
  | [] => 0
  | '\x1b' :: '[' :: rest => width (afterSequence rest)
  | c :: rest => Text.charWidth c + width rest
termination_by text => text.length
decreasing_by
  · have := length_afterSequence_le rest
    simp; omega
  · simp

theorem width_sequence (rest : List Char) : width ('\x1b' :: '[' :: rest) = width (afterSequence rest) := by
  rw [width]

theorem width_cons {c : Char} (plain : c ≠ '\x1b') (rest : List Char) :
    width (c :: rest) = Text.charWidth c + width rest := by
  rw [width]
  rintro _ rfl
  exact absurd rfl plain

def cellWidth (cell : String) : Nat := width cell.toList

def padded (cell : String) (columnWidth : Nat) : String :=
  cell.pushn ' ' (columnWidth - cellWidth cell)

/-- Each column is at least as wide as its cell of this row. -/
def widen (widths : List Nat) (row : List String) : List Nat :=
  match widths, row with
  | columnWidth :: widths, cell :: row => max columnWidth (cellWidth cell) :: widen widths row
  | widths, _ => widths

def columnWidths (headings : List String) (rows : List (List String)) : List Nat :=
  rows.foldl widen (headings.map cellWidth)

def line (widths : List Nat) (cells : List String) : String :=
  Text.trimEnd ("  ".intercalate (List.zipWith padded cells widths))

def rule (widths : List Nat) : List String := widths.map fun columnWidth => "".pushn '-' columnWidth

/-- Headings, a rule, and one line for each row. -/
def lines (headings : List String) (rows : List (List String)) : List String :=
  let widths := columnWidths headings rows
  line widths headings :: line widths (rule widths) :: rows.map (line widths)

end Table
end Retention
