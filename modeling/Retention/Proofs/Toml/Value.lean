import Retention.Proofs.Toml.Quoted

/-!
Keys and values are read back. What follows a value may not go on with its last word or its quotes.
-/
namespace Retention.Toml

/-! Gaps. -/

variable {gap text rest : List Char}

/-- The text begins with something that is never skipped. -/
def Begins (text : List Char) : Prop := ∀ c ∈ text.head?, isSpace c = false ∧ c ∉ ['\n', '\r', '#']

theorem skipSpaces_run (blank : ∀ c ∈ gap, isSpace c = true)
    (stop : ∀ c ∈ text.head?, isSpace c = false) : skipSpaces (gap ++ text) = text :=
  Text.dropWhile_run blank stop

theorem Begins.skipComment (begins : Begins text) : skipComment text = text := by
  unfold Toml.skipComment
  split
  · exact absurd (begins '#' rfl).2 (by simp)
  · rfl

theorem Begins.newline? (begins : Begins text) : newline? text = none := by
  unfold Toml.newline?
  split
  · exact absurd (begins '\n' rfl).2 (by simp)
  · exact absurd (begins '\r' rfl).2 (by simp)
  · rfl

theorem Begins.skipLines (blank : ∀ c ∈ gap, isSpace c = true) (begins : Begins text) :
    skipLines (gap ++ text) = text := by
  unfold Toml.skipLines
  cases size : (gap ++ text).length with
  | zero =>
    obtain ⟨rfl, rfl⟩ := List.append_eq_nil_iff.mp (List.length_eq_zero_iff.mp size)
    rfl
  | succ bound =>
    rw [dropLines, skipSpaces_run blank fun c first => (begins c first).1, begins.skipComment,
      begins.newline?]

theorem skipLines_feed : skipLines ('\n' :: text) = skipLines text := rfl

theorem lineEnd?_feed : lineEnd? ('\n' :: rest) = some rest := rfl

/-! Keys. -/

/-- A key does not go on into the text. -/
def EndsKey (text : List Char) : Prop := ∀ c ∈ text.head?, isBareKeyChar c = false

theorem isQuote_of_isBareKeyChar {c : Char} (bare : isBareKeyChar c = true) :
    Quoted.isQuote c = false := by
  have other : c ∉ ['"', '\''] := Text.not_mem_of_all_false (by simp [isBareKeyChar]) bare
  simpa [Quoted.isQuote] using other

theorem simpleKey?_keyText (key : String) (ends : EndsKey rest) :
    simpleKey? ((keyText key).toList ++ rest) = some (key, rest) := by
  have basic : simpleKey? ((Quoted.basic key.toList).toList ++ rest) = some (key, rest) := by
    have read := Quoted.line?_escapeFrom key.toList rest
    rw [String.ofList_toList] at read
    simpa [Quoted.basic, Quoted.between, simpleKey?, Quoted.isQuote] using read
  unfold keyText Quoted.writtenKey
  split
  · rename_i bare
    simp only [Bool.and_eq_true, Bool.not_eq_true', List.isEmpty_eq_false_iff, List.all_eq_true]
      at bare
    obtain ⟨filled, bare⟩ := bare
    obtain ⟨c, more, shape⟩ := List.exists_cons_of_ne_nil filled
    have first := isQuote_of_isBareKeyChar (bare c (shape ▸ List.mem_cons_self))
    have taken := Text.takeWhile_run bare ends
    have dropped := Text.dropWhile_run bare ends
    rw [String.toList_ofList, ← String.ofList_toList (s := key)]
    rw [String.toList_ofList]
    rw [shape, List.cons_append] at taken dropped ⊢
    rw [simpleKey?, first, taken, dropped]
    rfl
  split
  · exact basic
  · rename_i notSimple
    simp only [Bool.or_eq_true, Bool.not_eq_true', not_or, Bool.not_eq_false] at notSimple
    have read := @Quoted.line?_literal key.toList rest (Quoted.plain_of_isLiteral notSimple.2)
    rw [String.ofList_toList] at read
    simpa [Quoted.between, simpleKey?, Quoted.isQuote] using read

/-- What a key may begin with. -/
def opensKey (c : Char) : Bool := isBareKeyChar c || Quoted.isQuote c

theorem keyText_cons (key : String) :
    ∃ c more, (keyText key).toList = c :: more ∧ opensKey c = true := by
  unfold keyText Quoted.writtenKey
  split
  · rename_i bare
    simp only [Bool.and_eq_true, Bool.not_eq_true', List.isEmpty_eq_false_iff, List.all_eq_true]
      at bare
    obtain ⟨c, more, shape⟩ := List.exists_cons_of_ne_nil bare.1
    have first := bare.2 c (shape ▸ List.mem_cons_self)
    exact ⟨c, more, by rw [String.toList_ofList, shape], by rw [opensKey, first, Bool.true_or]⟩
  split
  · exact ⟨'"', _, by simp [Quoted.basic, Quoted.between]; rfl, rfl⟩
  · exact ⟨'\'', _, by simp [Quoted.between]; rfl, rfl⟩

/-- The characters that stand around keys and values begin no key. -/
theorem not_mem_of_opensKey {c : Char} (opens : opensKey c = true) :
    c ∉ [' ', '\t', '\n', '\r', '#', '[', '\uFEFF'] :=
  Text.not_mem_of_all_false (by simp [opensKey, isBareKeyChar, Quoted.isQuote]) opens

theorem skipSpaces_keyText (key : String) :
    skipSpaces ((keyText key).toList ++ rest) = (keyText key).toList ++ rest := by
  obtain ⟨c, more, shape, opens⟩ := keyText_cons key
  have mark := not_mem_of_opensKey opens
  rw [shape]
  refine @skipSpaces_run [] _ (by simp) ?_
  rintro _ ⟨⟩
  simp only [List.mem_cons, not_or] at mark
  simp [isSpace, mark.1, mark.2.1]

/-- A key of several parts. -/
def pathText (parts : List String) : List Char :=
  List.intercalate ['.'] (parts.map fun part => (keyText part).toList)

theorem pathText_cons (first second : String) (more : List String) :
    pathText (first :: second :: more) = (keyText first).toList ++ '.' :: pathText (second :: more) := by
  rw [pathText, pathText, List.map_cons, List.map_cons, List.intercalate_cons_cons,
    List.append_assoc, List.singleton_append]

theorem keyParts?_pathText (first : String) (more : List String) {bound : Nat}
    (few : more.length < bound) (ends : EndsKey rest) (dot : (skipSpaces rest).head? ≠ some '.') :
    keyParts? bound (pathText (first :: more) ++ rest) = some (first :: more, skipSpaces rest) := by
  induction more generalizing first bound with
  | nil =>
    obtain ⟨bound, rfl⟩ := Nat.exists_eq_add_one_of_ne_zero (Nat.ne_zero_of_lt few)
    rw [pathText, List.map_singleton, List.intercalate_singleton, keyParts?, skipSpaces_keyText,
      simpleKey?_keyText first ends]
    dsimp only
    split
    · rename_i dotted
      rw [dotted] at dot
      exact absurd rfl dot
    · rfl
  | cons second more ih =>
    obtain ⟨bound, rfl⟩ := Nat.exists_eq_add_one_of_ne_zero (Nat.ne_zero_of_lt few)
    have later := @ih second bound (by simpa using few)
    have ended : EndsKey ('.' :: (pathText (second :: more) ++ rest)) := by
      rintro _ ⟨⟩
      rfl
    have dotted : skipSpaces ('.' :: (pathText (second :: more) ++ rest)) =
      '.' :: (pathText (second :: more) ++ rest) := rfl
    rw [pathText_cons, List.append_assoc, List.cons_append, keyParts?, skipSpaces_keyText,
      simpleKey?_keyText first ended]
    simp only [dotted, later, Option.map_some]

theorem ofParts?_concat (path : List String) (name : String) :
    Key.ofParts? (path ++ [name]) = some ⟨path, name⟩ := by
  simp [Key.ofParts?]

theorem key?_pathText (path : List String) (name : String) (few : path.length < depthLimit)
    (ends : EndsKey rest) (dot : (skipSpaces rest).head? ≠ some '.') :
    key? (pathText (path ++ [name]) ++ rest) = some (⟨path, name⟩, skipSpaces rest) := by
  obtain ⟨first, more, shape⟩ := List.exists_cons_of_ne_nil (List.append_ne_nil_of_right_ne_nil path (List.cons_ne_nil name []))
  have bounded : more.length < depthLimit := by
    have size := congrArg List.length shape
    simp only [List.length_append, List.length_cons, List.length_nil] at size
    omega
  have parts := keyParts?_pathText first more bounded ends dot
  rw [← shape] at parts
  simp [key?, parts, ofParts?_concat]

/-! Words. -/

namespace Scalar

/-- No word goes on into the text. -/
def EndsWord (text : List Char) : Prop := ∀ c ∈ text.head?, isWordChar c = false

theorem any?_word {word : List Char} {value : Toml} (inside : ∀ c ∈ word, isWordChar c = true)
    (undated : isDate word = false) (read : ofWord? word = some value) (ends : EndsWord rest) :
    any? (word ++ rest) = some (value, rest) := by
  rw [any?]
  simp only [Text.takeWhile_run inside ends, Text.dropWhile_run inside ends, undated, read]
  rfl

variable {digits : List Char} (all : ∀ c ∈ digits, Text.isDigit c = true)

include all

theorem not_mem_digits {c : Char} (other : Text.isDigit c = false) : c ∉ digits := by
  intro member
  rw [all c member] at other
  cases other

theorem isDate_digits : isDate digits = false := by
  unfold isDate
  split
  · exact absurd (by simp) (not_mem_digits all (by decide : Text.isDigit '-' = false))
  · rfl

theorem isClock_digits : isClock digits = false := by
  unfold isClock
  split
  · exact absurd (by simp) (not_mem_digits all (by decide : Text.isDigit ':' = false))
  · rfl

theorem isMoment_digits : isMoment digits = false := by
  have front : ∀ c ∈ digits.take 10, Text.isDigit c = true :=
    fun c member => all c (List.mem_of_mem_take member)
  rw [isMoment, isClock_digits all, isDate_digits all, isDate_digits front]
  rfl

theorem decimal?_digits (filled : digits ≠ []) : decimal? digits = some digits := by
  have whole : digits.all Text.isDigit = true := List.all_eq_true.mpr all
  have single := Text.splitAt_of_notMem (not_mem_digits all (by decide : Text.isDigit '_' = false))
  simp [decimal?, grouped?, single, filled, whole]

theorem unsigned_digits : unsigned digits = digits := by
  unfold unsigned
  split
  · exact absurd (by simp) (not_mem_digits all (by decide : Text.isDigit '+' = false))
  · exact absurd (by simp) (not_mem_digits all (by decide : Text.isDigit '-' = false))
  · rfl

theorem magnitude?_digits : magnitude? digits = (whole? digits).map Text.digitsValue := by
  unfold magnitude?
  split
  · exact absurd (by simp) (not_mem_digits all (by decide : Text.isDigit 'x' = false))
  · exact absurd (by simp) (not_mem_digits all (by decide : Text.isDigit 'o' = false))
  · exact absurd (by simp) (not_mem_digits all (by decide : Text.isDigit 'b' = false))
  · rw [unsigned_digits all]

theorem isNegative_digits : isNegative digits = false := by
  unfold isNegative
  refine decide_eq_false fun first => ?_
  exact not_mem_digits all (by decide : Text.isDigit '-' = false) (List.mem_of_mem_head? first)

omit all

theorem whole?_toDigits (n : Nat) : whole? (Nat.toDigits 10 n) = some (Nat.toDigits 10 n) := by
  have decimal := decimal?_digits (fun _ => Text.isDigit_of_mem_toDigits) (Nat.toDigits_ne_nil (n := n) (b := 10))
  by_cases zero : (Nat.toDigits 10 n).head? = some '0'
  · rw [Text.head?_toDigits zero]
    rfl
  · simp [whole?, zero, decimal]

theorem integer?_toDigits {n : Nat} (small : (n : Int) ≤ Int64.maxValue.toInt) :
    integer? (Nat.toDigits 10 n) = some (n : Int) := by
  have all : ∀ c ∈ Nat.toDigits 10 n, Text.isDigit c = true := fun _ => Text.isDigit_of_mem_toDigits
  simp [integer?, magnitude?_digits all, whole?_toDigits, isNegative_digits all, small]

theorem ofWord?_toDigits {n : Nat} (small : (n : Int) ≤ Int64.maxValue.toInt) :
    ofWord? (Nat.toDigits 10 n) = some (.int n) := by
  have all : ∀ c ∈ Nat.toDigits 10 n, Text.isDigit c = true := fun _ => Text.isDigit_of_mem_toDigits
  have letter : 'e' ∉ Nat.toDigits 10 n := not_mem_digits all (by decide)
  have other (word : List Char) (member : 'e' ∈ word) : Nat.toDigits 10 n ≠ word := by
    rintro same
    exact letter (same ▸ member)
  rw [ofWord?, if_neg (other _ (by decide)), if_neg (other _ (by decide)), isMoment_digits all,
    integer?_toDigits small]
  rfl

end Scalar

/-! Values. -/

/-- A value without tables in it, of at most so many arrays in each other. -/
inductive Plain : Nat → Toml → Prop
  | str (depth : Nat) (value : String) : Plain depth (.str value)
  | bool (depth : Nat) (value : Bool) : Plain depth (.bool value)
  | natural (depth : Nat) {value : Nat} (small : (value : Int) ≤ Int64.maxValue.toInt) :
      Plain depth (.int value)
  | array {depth : Nat} {items : List Toml} (each : ∀ item ∈ items, Plain depth item) :
      Plain (depth + 1) (.array items)

/-- What a value may begin with. -/
def opensValue (c : Char) : Bool := Quoted.isQuote c || c.isAlphanum || c = '['

theorem toList_natural (n : Nat) : (valueText (.int n)).toList = Nat.toDigits 10 n := by
  rw [valueText, Int.toString_eq_repr, Int.repr_eq_if, if_pos (Int.natCast_nonneg n), Int.toNat_natCast,
    Nat.toList_repr]

theorem isAlphanum_of_isDigit {c : Char} (digit : Text.isDigit c = true) : c.isAlphanum = true := by
  rw [Text.isDigit_eq] at digit
  rw [Char.isAlphanum, digit, Bool.or_true]

theorem Plain.cons {depth : Nat} {value : Toml} (plain : Plain depth value) :
    ∃ c more, (valueText value).toList = c :: more ∧ opensValue c = true := by
  cases plain with
  | str depth value =>
    obtain ⟨quote, body, shape, opens, -⟩ := Quoted.quotes_written value.toList
    exact ⟨quote, body, by rw [valueText, shape], by rw [opensValue, opens]; rfl⟩
  | bool depth value => cases value <;> exact ⟨_, _, rfl, rfl⟩
  | natural depth small =>
    rename_i n
    obtain ⟨c, more, digits⟩ := List.exists_cons_of_ne_nil (Nat.toDigits_ne_nil (n := n) (b := 10))
    have member : c ∈ Nat.toDigits 10 n := digits ▸ List.mem_cons_self
    have digit := isAlphanum_of_isDigit (Text.isDigit_of_mem_toDigits member)
    exact ⟨c, more, by rw [toList_natural, digits], by rw [opensValue, digit, Bool.or_true, Bool.true_or]⟩
  | array each =>
    rename_i items
    unfold valueText arrayText
    split
    · exact ⟨'[', _, by simp; rfl, rfl⟩
    · exact ⟨'[', _, by simp; rfl, rfl⟩

/-- The characters that stand around values begin none. -/
theorem not_mem_of_opensValue {c : Char} (opens : opensValue c = true) :
    c ∉ [' ', '\t', '\n', '\r', '#', ']'] :=
  Text.not_mem_of_all_false (by simp [opensValue, Quoted.isQuote]) opens

theorem Plain.begins {depth : Nat} {value : Toml} (plain : Plain depth value) :
    Begins ((valueText value).toList ++ rest) := by
  obtain ⟨c, more, shape, opens⟩ := plain.cons
  have mark := not_mem_of_opensValue opens
  rw [shape]
  rintro _ ⟨⟩
  simp only [List.mem_cons, not_or] at mark
  simp [isSpace, mark]

theorem Plain.filled {depth : Nat} {value : Toml} (plain : Plain depth value) :
    ((valueText value).toList ++ rest).head? ≠ some ']' := by
  obtain ⟨c, more, shape, opens⟩ := plain.cons
  have mark := not_mem_of_opensValue opens
  rw [shape]
  rintro ⟨⟩
  simp at mark

/-- Neither a word nor a quote goes on into the text. -/
def EndsValue (text : List Char) : Prop :=
  ∀ c ∈ text.head?, Quoted.isQuote c = false ∧ Scalar.isWordChar c = false

/-- A value is found where it was written. -/
def Finds (read : Reader) (value : Toml) : Prop :=
  ∀ rest, EndsValue rest → read ((valueText value).toList ++ rest) = some (value, rest)

theorem valueFrom_quote {depth : Nat} {c : Char} (quote : Quoted.isQuote c = true) :
    valueFrom depth (c :: rest) = (Quoted.any? c rest).map fun (text, rest) => (.str text, rest) := by
  rw [valueFrom.eq_def]
  exact if_pos quote

theorem valueFrom_word {depth : Nat} {c : Char} (quote : Quoted.isQuote c = false)
    (array : c ≠ '[') (brace : c ≠ '{') :
    valueFrom depth (c :: rest) = Scalar.any? (c :: rest) := by
  rw [valueFrom.eq_def]
  simp only [quote, Bool.false_eq_true, if_false, if_neg array, if_neg brace]

theorem valueFrom_array (depth : Nat) :
    valueFrom (depth + 1) ('[' :: rest) = array? (valueFrom depth) rest := rfl

theorem finds_str (depth : Nat) (value : String) : Finds (valueFrom depth) (.str value) := by
  intro rest ends
  obtain ⟨quote, body, shape, opens, read⟩ := Quoted.quotes_written value.toList
  have found := read rest fun c first => (ends c first).1
  rw [String.ofList_toList] at found
  rw [valueText, shape, List.cons_append, valueFrom_quote opens, found]
  rfl

theorem finds_word {depth : Nat} {value : Toml} {c : Char} {more : List Char}
    (shape : (valueText value).toList = c :: more) (first : c.isAlphanum = true)
    (read : ∀ rest, Scalar.EndsWord rest →
      Scalar.any? ((valueText value).toList ++ rest) = some (value, rest)) :
    Finds (valueFrom depth) value := by
  intro rest ends
  have found := read rest fun c first => (ends c first).2
  have quote : Quoted.isQuote c = false := isQuote_of_isBareKeyChar (by simp [isBareKeyChar, first])
  have other (d : Char) (mark : d.isAlphanum = false) : c ≠ d := by
    rintro rfl
    rw [first] at mark
    cases mark
  rw [shape, List.cons_append] at found ⊢
  rw [valueFrom_word quote (other '[' rfl) (other '{' rfl), found]

theorem finds_bool (depth : Nat) (value : Bool) : Finds (valueFrom depth) (.bool value) := by
  cases value with
  | true =>
    exact finds_word rfl rfl fun rest =>
      @Scalar.any?_word rest "true".toList (.bool true) (by simp [Scalar.isWordChar]) rfl rfl
  | false =>
    exact finds_word rfl rfl fun rest =>
      @Scalar.any?_word rest "false".toList (.bool false) (by simp [Scalar.isWordChar]) rfl rfl

theorem finds_natural (depth : Nat) {n : Nat} (small : (n : Int) ≤ Int64.maxValue.toInt) :
    Finds (valueFrom depth) (.int n) := by
  have all : ∀ c ∈ Nat.toDigits 10 n, Text.isDigit c = true := fun _ => Text.isDigit_of_mem_toDigits
  have inside : ∀ c ∈ Nat.toDigits 10 n, Scalar.isWordChar c = true := fun c member => by
    rw [Scalar.isWordChar, isAlphanum_of_isDigit (all c member), Bool.true_or]
  obtain ⟨c, more, digits⟩ := List.exists_cons_of_ne_nil (Nat.toDigits_ne_nil (n := n) (b := 10))
  have first := isAlphanum_of_isDigit (all c (digits ▸ List.mem_cons_self))
  refine finds_word (toList_natural n ▸ digits) first fun rest => ?_
  rw [toList_natural]
  exact Scalar.any?_word inside (Scalar.isDate_digits all) (Scalar.ofWord?_toDigits small)

/-! Arrays. -/

section Items

variable {read : Reader} {item : Toml} {bound : Nat}

theorem itemsFrom_close : itemsFrom read (bound + 1) (']' :: rest) = some ([], rest) := rfl

theorem itemsFrom_comma (blank : ∀ c ∈ gap, isSpace c = true) (begins : Begins text)
    (filled : text.head? ≠ some ']') (found : read text = some (item, ',' :: rest)) :
    itemsFrom read (bound + 1) (gap ++ text) =
      (itemsFrom read bound rest).map fun (items, rest) => (item :: items, rest) := by
  rw [itemsFrom, begins.skipLines blank]
  split
  · exact absurd rfl filled
  · rw [found]
    rfl

theorem itemsFrom_last (blank : ∀ c ∈ gap, isSpace c = true) (begins : Begins text)
    (filled : text.head? ≠ some ']') (found : read text = some (item, ']' :: rest)) :
    itemsFrom read (bound + 1) (gap ++ text) = some ([item], rest) := by
  rw [itemsFrom, begins.skipLines blank]
  split
  · exact absurd rfl filled
  · rw [found]
    rfl

theorem itemsFrom_feed : itemsFrom read bound ('\n' :: text) = itemsFrom read bound text := by
  cases bound with
  | zero => rfl
  | succ bound => rw [itemsFrom, itemsFrom, skipLines_feed]

/-- Items on lines of their own. -/
def itemLines (items : List Toml) : List Char :=
  items.flatMap fun item => "    ".toList ++ ((valueText item).toList ++ [',', '\n'])

theorem itemLines_cons (items : List Toml) : itemLines (item :: items) ++ rest =
    "    ".toList ++ ((valueText item).toList ++ ',' :: '\n' :: (itemLines items ++ rest)) := by
  simp [itemLines]

theorem length_le_itemLines (items : List Toml) : items.length ≤ (itemLines items).length := by
  induction items with
  | nil => exact Nat.le_refl 0
  | cons item items ih =>
    have shape := @itemLines_cons [] item items
    rw [List.append_nil, List.append_nil] at shape
    simp only [shape, List.length_append, List.length_cons]
    omega

theorem endsValue_of_mem {c : Char} (mark : c ∈ [',', ']', '\n', ' ', '}']) : EndsValue (c :: rest) := by
  have marks : ∀ d ∈ [',', ']', '\n', ' ', '}'], Quoted.isQuote d = false ∧ Scalar.isWordChar d = false := by
    simp [Quoted.isQuote, Scalar.isWordChar]
  rintro _ ⟨⟩
  exact marks c mark

theorem itemsFrom_itemLines {depth : Nat} {items : List Toml} (each : ∀ item ∈ items, Plain depth item)
    (found : ∀ item ∈ items, Finds read item) (enough : items.length < bound) :
    itemsFrom read bound (itemLines items ++ ']' :: rest) = some (items, rest) := by
  -- Each item takes one step of the bound, and the closing bracket the last.
  obtain ⟨bound, rfl⟩ := Nat.exists_eq_add_one_of_ne_zero (Nat.ne_zero_of_lt enough)
  induction items generalizing bound with
  | nil => exact itemsFrom_close
  | cons item items ih =>
    obtain ⟨plain, plains⟩ := List.forall_mem_cons.mp each
    obtain ⟨first, others⟩ := List.forall_mem_cons.mp found
    have blank : ∀ c ∈ "    ".toList, isSpace c = true := List.all_eq_true.mp rfl
    have read := first (',' :: '\n' :: (itemLines items ++ ']' :: rest)) (endsValue_of_mem (by simp))
    rw [List.length_cons] at enough
    obtain ⟨bound, rfl⟩ := Nat.exists_eq_add_one_of_ne_zero (Nat.ne_zero_of_lt (Nat.lt_of_succ_lt_succ enough))
    rw [itemLines_cons, itemsFrom_comma blank plain.begins plain.filled read, itemsFrom_feed,
      ih plains others bound (by omega), Option.map_some]

theorem itemTexts_eq (items : List Toml) : itemTexts items = items.map valueText := by
  induction items with
  | nil => rfl
  | cons item items ih => rw [itemTexts, ih, List.map_cons]

end Items

theorem finds_items {depth : Nat} {items : List Toml} {content : List Char}
    (shape : (valueText (.array items)).toList = '[' :: content)
    (read : ∀ rest, itemsFrom (valueFrom depth) ((content ++ rest).length + 1) (content ++ rest) =
      some (items, rest)) : Finds (valueFrom (depth + 1)) (.array items) := by
  intro rest _
  rw [shape, List.cons_append, valueFrom_array, array?, read]
  rfl

theorem finds_array {depth : Nat} {items : List Toml} (each : ∀ item ∈ items, Plain depth item)
    (found : ∀ item ∈ items, Finds (valueFrom depth) item) :
    Finds (valueFrom (depth + 1)) (.array items) := by
  have whole : valueText (.array items) = arrayText (items.map valueText) := by
    rw [valueText, itemTexts_eq]
  match items with
  | [] => exact finds_items (by rw [whole]; rfl) fun _ => rfl
  | [item] =>
    have shape : (valueText (.array [item])).toList = '[' :: ((valueText item).toList ++ [']']) := by
      rw [whole]
      simp [arrayText]
    refine finds_items shape fun rest => ?_
    have plain := each item List.mem_cons_self
    have read := found item List.mem_cons_self (']' :: rest) (endsValue_of_mem (by simp))
    rw [List.append_assoc]
    exact @itemsFrom_last [] _ _ _ _ _ (by simp) plain.begins plain.filled read
  | first :: second :: items =>
    have shape : (valueText (.array (first :: second :: items))).toList =
        '[' :: '\n' :: (itemLines (first :: second :: items) ++ [']']) := by
      have many : ¬ (valueText first :: valueText second :: items.map valueText).length < 2 := by simp
      rw [whole, List.map_cons, List.map_cons, arrayText, if_neg many]
      simp [itemLines, String.toList_join, List.flatMap_map]
    refine finds_items shape fun rest => ?_
    have enough := length_le_itemLines (first :: second :: items)
    rw [List.cons_append, List.append_assoc, itemsFrom_feed]
    refine itemsFrom_itemLines each found (Nat.lt_succ_of_le (Nat.le_trans enough ?_))
    simp only [List.length_cons, List.length_append]
    omega

theorem Plain.finds {depth : Nat} {value : Toml} (plain : Plain depth value) :
    Finds (valueFrom depth) value := by
  induction plain with
  | str depth value => exact finds_str depth value
  | bool depth value => exact finds_bool depth value
  | natural depth small => exact finds_natural depth small
  | array each found => exact finds_array each found

end Retention.Toml
