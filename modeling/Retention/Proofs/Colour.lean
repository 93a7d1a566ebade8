import Mathlib.Algebra.BigOperators.Group.List.Basic
import Mathlib.Algebra.GroupWithZero.Nat
import Retention.Report.Table

/-!
Text with colour sequences in it. A sequence runs from an escape and a bracket to the next `m`, and a terminal
shows nothing of it. Texts in which every escape begins a whole sequence can be put together, and their
display width is that of the characters that are seen.
-/
namespace Retention
namespace Colour

/-- What is seen of a text in which every escape begins a whole colour sequence. -/
inductive Seen : List Char → List Char → Prop
  | nil : Seen [] []
  | plain {c : Char} {text seen : List Char} (plain : c ≠ '\x1b') (later : Seen text seen) :
      Seen (c :: text) (c :: seen)
  | sequence {codes text seen : List Char} (inside : 'm' ∉ codes) (later : Seen text seen) :
      Seen ('\x1b' :: '[' :: (codes ++ 'm' :: text)) seen

/-- The text without its colour sequences. One that does not end takes all of the rest along. -/
def removed : List Char → List Char
  | [] => []
  | '\x1b' :: '[' :: rest => removed (rest.dropWhile (· ≠ 'm')).tail
  | c :: rest => c :: removed rest
termination_by text => text.length
decreasing_by
  · have shorter := ((List.tail_suffix _).trans (List.dropWhile_suffix (l := rest) (· ≠ 'm'))).length_le
    simp only [List.length_cons]
    omega
  · simp

/-- The text takes so many columns: those of the characters that are seen of it. -/
def Takes (text : List Char) (columns : Nat) : Prop :=
  ∃ seen, Seen text seen ∧ (seen.map Text.charWidth).sum = columns

variable {text more seen seen' codes rest : List Char} {columns columns' : Nat}

theorem Seen.append (first : Seen text seen) (second : Seen more seen') :
    Seen (text ++ more) (seen ++ seen') := by
  induction first with
  | nil => exact second
  | plain plain _ ih => exact .plain plain ih
  | sequence inside _ ih =>
    rw [List.cons_append, List.cons_append, List.append_assoc, List.cons_append]
    exact .sequence inside ih

theorem seen_of_notMem (plain : '\x1b' ∉ text) : Seen text text := by
  induction text with
  | nil => exact .nil
  | cons c text ih =>
    obtain ⟨first, later⟩ := not_or.mp (mt List.mem_cons.mpr plain)
    exact .plain (Ne.symm first) (ih later)

theorem seen_sequence (inside : 'm' ∉ codes) : Seen ('\x1b' :: '[' :: (codes ++ ['m'])) [] :=
  .sequence inside .nil

section Sequences

theorem afterSequence_append (inside : 'm' ∉ codes) (rest : List Char) :
    Table.afterSequence (codes ++ 'm' :: rest) = rest := by
  induction codes with
  | nil => simp [Table.afterSequence]
  | cons c codes ih =>
    obtain ⟨first, later⟩ := not_or.mp (mt List.mem_cons.mpr inside)
    rw [List.cons_append, Table.afterSequence, if_neg (Ne.symm first), ih later]

theorem removed_sequence (inside : 'm' ∉ codes) (rest : List Char) :
    removed ('\x1b' :: '[' :: (codes ++ 'm' :: rest)) = removed rest := by
  have before : ∀ c ∈ codes, decide (c ≠ 'm') = true := by
    intro c member
    exact decide_eq_true fun same => inside (same ▸ member)
  rw [removed, List.dropWhile_append_of_pos before, List.dropWhile_cons_of_neg (by simp), List.tail_cons]

theorem removed_cons {c : Char} (plain : c ≠ '\x1b') (rest : List Char) :
    removed (c :: rest) = c :: removed rest := by
  rw [removed]
  rintro _ rfl
  exact absurd rfl plain

end Sequences

theorem Seen.removed_eq (sees : Seen text seen) : removed text = seen := by
  induction sees with
  | nil => rw [removed]
  | plain plain _ ih => rw [removed_cons plain, ih]
  | sequence inside _ ih => rw [removed_sequence inside, ih]

/-- The width of a table cell counts what is seen of it. -/
theorem Seen.width_eq (sees : Seen text seen) : Table.width text = (seen.map Text.charWidth).sum := by
  induction sees with
  | nil => rw [Table.width]; rfl
  | plain plain _ ih => rw [Table.width_cons plain, ih, List.map_cons, List.sum_cons]
  | sequence inside _ ih => rw [Table.width_sequence, afterSequence_append inside, ih]

theorem Takes.width_eq (takes : Takes text columns) : Table.width text = columns := by
  obtain ⟨seen, sees, total⟩ := takes
  rw [sees.width_eq, total]

theorem Seen.takes (sees : Seen text seen) : Takes text (Table.width text) :=
  ⟨seen, sees, sees.width_eq.symm⟩

theorem Takes.append (first : Takes text columns) (second : Takes more columns') :
    Takes (text ++ more) (columns + columns') := by
  obtain ⟨seen, sees, rfl⟩ := first
  obtain ⟨seen', sees', rfl⟩ := second
  exact ⟨seen ++ seen', sees.append sees', by rw [List.map_append, List.sum_append]⟩

/-- Every character of a run takes one column. -/
theorem takes_replicate {c : Char} (plain : c ≠ '\x1b') (narrow : Text.charWidth c = 1) (n : Nat) :
    Takes (List.replicate n c) n := by
  refine ⟨_, seen_of_notMem fun member => plain (List.eq_of_mem_replicate member).symm, ?_⟩
  rw [List.map_replicate, narrow, List.sum_replicate, Nat.nsmul_eq_mul, Nat.mul_one]

end Colour
end Retention
