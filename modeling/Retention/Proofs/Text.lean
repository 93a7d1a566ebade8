import Mathlib.Algebra.GroupWithZero.Nat
import Mathlib.Data.List.DropRight
import Retention.Text.Blank
import Retention.Text.Numeral

/-!
Runs of characters, blanks, and numerals. A run ends where its characters do, and blanks on either side are
no part of a text. Digits have the value of the number they were written for, and zeros in front count for
nothing.
-/
namespace Retention.Text

section Runs

variable {p : Char → Bool} {word rest : List Char}

theorem takeWhile_run (inside : ∀ c ∈ word, p c = true) (stop : ∀ c ∈ rest.head?, p c = false) :
    (word ++ rest).takeWhile p = word := by
  rw [List.takeWhile_append_of_pos inside]
  cases rest with
  | nil => simp
  | cons c rest => simp [stop c rfl]

theorem dropWhile_run (inside : ∀ c ∈ word, p c = true) (stop : ∀ c ∈ rest.head?, p c = false) :
    (word ++ rest).dropWhile p = rest := by
  rw [List.dropWhile_append_of_pos inside]
  cases rest with
  | nil => rfl
  | cons c rest => simp [stop c rfl]

end Runs

section Blanks

variable {front text back : List Char}

/-- No character that ASCII can print is blank but the space. -/
theorem isBlank_visible {c : Char} (low : 32 < c.toNat) (high : c.toNat < 127) : isBlank c = false := by
  simp [isBlank, inRanges, blankRanges]
  omega

theorem trimRight_eq (text : List Char) : trimRight text = text.rdropWhile isBlank := rfl

theorem trimmed_trimmed (text : List Char) : trimmed (trimmed text) = trimmed text := by
  have left : trimLeft (trimmed text) = trimmed text := by
    refine List.dropWhile_eq_self_iff.mpr fun filled => ?_
    have front : trimmed text <+: trimLeft text := List.rdropWhile_prefix isBlank _
    rw [front.getElem filled]
    exact List.dropWhile_get_zero_not _ _ _
  rw [trimmed, left, trimmed, trimRight_eq, trimRight_eq, List.rdropWhile_idempotent]

theorem trim_trim (text : String) : trim (trim text) = trim text := by
  simp [trim, trimmed_trimmed]

theorem trimRight_append (blank : ∀ c ∈ back, isBlank c = true) :
    trimRight (text ++ back) = trimRight text := by
  have reversed : ∀ c ∈ back.reverse, isBlank c = true := fun c member => blank c (List.mem_reverse.mp member)
  rw [trimRight, trimRight, List.reverse_append, List.dropWhile_append_of_pos reversed]

theorem trimRight_eq_nil (blank : ∀ c ∈ text, isBlank c = true) : trimRight text = [] :=
  show trimRight ([] ++ text) = trimRight [] from trimRight_append blank

/-- Only a text without a visible character lets the text before it be trimmed. -/
theorem trimRight_append_eq (front back : List Char) : trimRight (front ++ back) =
    if trimRight back = [] then trimRight front else front ++ trimRight back := by
  rw [trimRight, trimRight, trimRight, List.reverse_append, List.dropWhile_append]
  simp only [List.isEmpty_iff, List.reverse_eq_nil_iff]
  split
  · rfl
  · rw [List.reverse_append, List.reverse_reverse]

/-- Trimming takes blanks away, and all of them. -/
theorem exists_trimRight (text : List Char) : ∃ blanks, trimRight text ++ blanks = text ∧
    (∀ c ∈ blanks, isBlank c = true) ∧ ∀ c ∈ (trimRight text).getLast?, isBlank c = false := by
  refine ⟨text.rtakeWhile isBlank, List.rdropWhile_append_rtakeWhile, fun c => List.mem_rtakeWhile_imp, ?_⟩
  intro c last
  obtain ⟨filled, rfl⟩ := List.mem_getLast?_eq_getLast last
  rw [← Bool.not_eq_true]
  exact List.rdropWhile_last_not isBlank text filled

/-- What trimming leaves stands in the text, between blanks. -/
theorem exists_trimmed (text : List Char) : ∃ front back, front ++ trimmed text ++ back = text ∧
    (∀ c ∈ front, isBlank c = true) ∧ ∀ c ∈ back, isBlank c = true := by
  obtain ⟨back, split, after, -⟩ := exists_trimRight (trimLeft text)
  refine ⟨text.takeWhile isBlank, back, ?_, fun c => List.mem_takeWhile_imp, after⟩
  rw [List.append_assoc, trimmed, split]
  exact List.takeWhile_append_dropWhile

/-- A text that neither begins nor ends with a blank has none to lose. -/
theorem trimmed_of_ends (first : ∀ c ∈ text.head?, isBlank c = false)
    (last : ∀ c ∈ text.getLast?, isBlank c = false) : trimmed text = text := by
  have left : trimLeft text = text := List.dropWhile_eq_self_iff.mpr fun filled => by
    rw [first text[0] (by rw [List.head?_eq_getElem?]; exact List.getElem?_eq_getElem filled)]
    exact Bool.false_ne_true
  rw [trimmed, left, trimRight_eq, List.rdropWhile_eq_self_iff]
  intro filled
  rw [last _ (List.getLast?_eq_some_getLast filled)]
  exact Bool.false_ne_true

theorem visible_of_all (all : text.all (! isBlank ·) = true) : ∀ c ∈ text, isBlank c = false := by
  simpa using all

theorem trimmed_of_visible (visible : ∀ c ∈ text, isBlank c = false) : trimmed text = text :=
  trimmed_of_ends (fun c first => visible c (List.mem_of_head? first))
    fun c last => visible c (List.mem_of_getLast? last)

/-- Blanks on either side of a text are no part of it. -/
theorem trimmed_surrounded (before : ∀ c ∈ front, isBlank c = true) (after : ∀ c ∈ back, isBlank c = true) :
    trimmed (front ++ text ++ back) = trimmed text := by
  rw [trimmed, trimLeft, List.append_assoc, List.dropWhile_append_of_pos before, List.dropWhile_append,
    trimmed, trimLeft]
  split
  · rename_i none
    have left : ∀ c ∈ back.dropWhile isBlank, isBlank c = true := fun c member =>
      after c ((List.dropWhile_sublist isBlank).subset member)
    rw [trimRight_eq_nil left, List.isEmpty_iff.mp none]
    rfl
  · exact trimRight_append after

theorem trimmed_map {f : Char → Char} (same : ∀ c, isBlank (f c) = isBlank c) (text : List Char) :
    trimmed (text.map f) = (trimmed text).map f := by
  have blank : isBlank ∘ f = isBlank := funext same
  simp only [trimmed, trimRight, trimLeft, List.dropWhile_map, ← List.map_reverse, blank]

theorem trimmed_eq_nil_iff : trimmed text = [] ↔ ∀ c ∈ text, isBlank c = true := by
  rw [trimmed, trimRight_eq, List.rdropWhile_eq_nil_iff, trimLeft]
  constructor
  · intro blank
    rw [← List.dropWhile_eq_nil_iff]
    by_contra filled
    have first := List.head_dropWhile_not isBlank filled
    rw [blank _ (List.head_mem filled)] at first
    cases first
  · intro blank c member
    exact blank c ((List.dropWhile_sublist isBlank).subset member)

theorem trim_eq_empty_iff {text : String} : trim text = "" ↔ isBlankText text = true := by
  rw [trim, isBlankText, List.all_eq_true, ← trimmed_eq_nil_iff, ← String.ofList_nil, String.ofList_inj]

end Blanks

section Pieces

variable {α : Type} [DecidableEq α] {separator : α} {piece : List α}

theorem splitAt_of_notMem (absent : separator ∉ piece) : splitAt separator piece = [piece] := by
  induction piece with
  | nil => rfl
  | cons item piece ih =>
    obtain ⟨other, later⟩ := not_or.mp (mt List.mem_cons.mpr absent)
    rw [splitAt, if_neg (Ne.symm other), ih later]

theorem splitAt_ne_nil (separator : α) (text : List α) : splitAt separator text ≠ [] := by
  cases text with
  | nil => simp [splitAt]
  | cons item rest =>
    rw [splitAt]
    split
    · simp
    · split <;> simp

theorem splitAt_append (separator : α) (before after : List α) :
    splitAt separator (before ++ separator :: after) =
      splitAt separator before ++ splitAt separator after := by
  induction before with
  | nil => simp [splitAt]
  | cons item before ih =>
    rw [List.cons_append, splitAt, splitAt, ih]
    split
    · rfl
    · obtain ⟨first, pieces, same⟩ := List.exists_cons_of_ne_nil (splitAt_ne_nil separator before)
      rw [same]
      rfl

end Pieces

section Lines

theorem unlines_cons (line : String) (lines : List String) :
    unlines (line :: lines) = line ++ "\n" ++ unlines lines := by
  rw [unlines, List.map_cons, String.join_cons]
  rfl

theorem length_unlines (lines : List String) :
    (unlines lines).length = (lines.map fun line => line.length + 1).sum := by
  induction lines with
  | nil => rfl
  | cons line lines ih =>
    rw [unlines_cons, String.length_append, String.length_append, ih]
    rfl

theorem splitOn_unlines (lines : List String) :
    splitOn '\n' (unlines lines) = lines.flatMap (splitOn '\n') ++ [""] := by
  induction lines with
  | nil => rfl
  | cons line lines ih =>
    have first : (unlines (line :: lines)).toList =
        line.toList ++ '\n' :: (unlines lines).toList := by
      simp [unlines_cons]
    rw [splitOn, first, splitAt_append, List.map_append, List.flatMap_cons, List.append_assoc, ← ih]
    rfl

theorem splitOn_of_notMem {line : String} (whole : '\n' ∉ line.toList) : splitOn '\n' line = [line] := by
  rw [splitOn, splitAt_of_notMem whole, List.map_singleton, String.ofList_toList]

theorem flatMap_splitOn {lines : List String} (whole : ∀ line ∈ lines, '\n' ∉ line.toList) :
    lines.flatMap (splitOn '\n') = lines := by
  rw [List.flatMap_congr fun line member => splitOn_of_notMem (whole line member), List.flatMap_singleton']

/-- A text after the end of a line has its lines behind those before it. -/
theorem lines_append {before after : List Char} (ended : before = [] ∨ before.getLast? = some '\n') :
    lines (before ++ after) = lines before ++ lines after := by
  rcases ended with rfl | ended
  · rfl
  · obtain ⟨front, rfl⟩ := List.getLast?_eq_some_iff.mp ended
    have filled := splitAt_ne_nil '\n' after
    have alone : splitAt '\n' (front ++ ['\n']) = splitAt '\n' front ++ [[]] := splitAt_append '\n' front []
    rw [List.append_assoc, List.singleton_append, lines, lines, lines, splitAt_append, alone,
      List.dropLast_append_of_ne_nil filled, List.getLast?_append_of_ne_nil _ filled, List.dropLast_concat,
      List.getLast?_concat]
    simp

end Lines

theorem not_mem_of_all_false {p : Char → Bool} {marks : List Char} (none : ∀ d ∈ marks, p d = false)
    {c : Char} (holds : p c = true) : c ∉ marks := by
  intro member
  rw [none c member] at holds
  cases holds

theorem notMem_intercalate {c : Char} {separator : String} {items : List String} (apart : c ∉ separator.toList)
    (free : ∀ item ∈ items, c ∉ item.toList) : c ∉ (separator.intercalate items).toList := by
  induction items with
  | nil => simp
  | cons item items ih =>
    obtain ⟨first, later⟩ := List.forall_mem_cons.mp free
    cases items with
    | nil => simpa using first
    | cons next items =>
      rw [String.intercalate_cons_cons, String.toList_append, String.toList_append, List.mem_append,
        List.mem_append, not_or, not_or]
      exact ⟨⟨first, apart⟩, ih later⟩

theorem toList_pushn (text : String) (c : Char) (n : Nat) :
    (text.pushn c n).toList = text.toList ++ List.replicate n c := by
  induction n with
  | zero => simp [String.pushn_eq_repeat_push, Nat.repeat]
  | succ n ih =>
    rw [String.pushn_eq_repeat_push] at ih ⊢
    rw [Nat.repeat, String.toList_push, ih, List.append_assoc, List.replicate_succ']

theorem isDigit_eq (c : Char) : isDigit c = c.isDigit := rfl

theorem isBlank_of_isDigit {c : Char} (digit : isDigit c = true) : isBlank c = false := by
  rw [isDigit_eq, Char.isDigit_iff_toNat] at digit
  exact isBlank_visible (Nat.lt_of_lt_of_le (by decide) digit.1) (Nat.lt_of_le_of_lt digit.2 (by decide))

theorem digitsValue_eq (digits : List Char) : digitsValue digits = Nat.ofDigitChars 10 digits 0 := rfl

theorem numeral?_eq_some_iff {digits : List Char} {n : Nat} : numeral? digits = some n ↔
    digits ≠ [] ∧ (∀ c ∈ digits, isDigit c = true) ∧ Nat.ofDigitChars 10 digits 0 = n := by
  simp [numeral?, digitsValue_eq, and_assoc]

theorem digitValue_le {c : Char} (digit : isDigit c = true) : digitValue c ≤ 9 := by
  rw [isDigit_eq, Char.isDigit_iff_toNat] at digit
  exact Nat.sub_le_sub_right digit.2 '0'.toNat

theorem digitsValue_cons (c : Char) (digits : List Char) :
    digitsValue (c :: digits) = digitValue c * 10 ^ digits.length + digitsValue digits := by
  rw [digitsValue_eq, Nat.ofDigitChars_cons, Nat.ofDigitChars_eq_ofDigitChars_zero, Nat.mul_zero, Nat.zero_add,
    Nat.mul_comm]
  rfl

@[simp] theorem digitsValue_toDigits (n : Nat) : digitsValue (Nat.toDigits 10 n) = n := by
  rw [digitsValue_eq, Nat.ofDigitChars_ten_toDigits]

theorem isDigit_of_mem_toDigits {n : Nat} {c : Char} (member : c ∈ Nat.toDigits 10 n) :
    isDigit c = true := by
  rw [isDigit_eq]
  exact Nat.isDigit_of_mem_toDigits (by decide) (by decide) member

/-- Only the numeral for zero begins with a zero. -/
theorem head?_toDigits {n : Nat} (zero : (Nat.toDigits 10 n).head? = some '0') : n = 0 := by
  induction n using Nat.strongRecOn with
  | ind n ih =>
    rw [Nat.toDigits_eq_if (by decide)] at zero
    split at zero
    · rename_i small
      have digit : n.digitChar = '0' := by simpa using zero
      have code := congrArg Char.toNat digit
      rw [Nat.toNat_digitChar_of_lt_ten small] at code
      exact Nat.add_left_cancel code
    · rename_i large
      rw [List.head?_append, List.head?_eq_some_head Nat.toDigits_ne_nil, Option.some_or,
        ← List.head?_eq_some_head Nat.toDigits_ne_nil] at zero
      have front := ih (n / 10) (Nat.div_lt_self (by omega) (by decide)) zero
      omega

theorem toList_padded (width n : Nat) : (padded width n).toList =
    List.replicate (width - (Nat.toDigits 10 n).length) '0' ++ Nat.toDigits 10 n := by
  simp [padded, toList_pushn, Nat.repr_eq_ofList_toDigits]

theorem isDigit_of_mem_padded {width n : Nat} {c : Char} (member : c ∈ (padded width n).toList) :
    isDigit c = true := by
  rw [toList_padded] at member
  rcases List.mem_append.mp member with zero | digit
  · rw [(List.mem_replicate.mp zero).2]
    rfl
  · exact isDigit_of_mem_toDigits digit

theorem digitsValue_padded (width n : Nat) : digitsValue (padded width n).toList = n := by
  rw [toList_padded, digitsValue_eq, Nat.ofDigitChars_append, Nat.ofDigitChars_replicate_zero,
    Nat.mul_zero, Nat.ofDigitChars_ten_toDigits]

theorem length_padded {width n : Nat} (wide : 0 < width) (bound : n < Nat.pow 10 width) :
    (padded width n).toList.length = width := by
  have fits := (Nat.length_toDigits_le_iff (by decide) wide).mpr bound
  rw [toList_padded, List.length_append, List.length_replicate]
  omega

theorem numeral?_padded (width n : Nat) : numeral? (padded width n).toList = some n := by
  have digits : (padded width n).toList.all isDigit = true :=
    List.all_eq_true.mpr fun _ => isDigit_of_mem_padded
  have filled : (padded width n).toList.isEmpty = false := by simp [toList_padded]
  simp [numeral?, digits, filled, digitsValue_padded]

end Retention.Text
