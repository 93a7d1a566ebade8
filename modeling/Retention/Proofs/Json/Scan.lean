import Mathlib.Data.List.Forall2
import Retention.Json.Print
import Retention.Json.Token
import Retention.Proofs.Text

/-!
Scanning what was written. A piece of text stands for its tokens if it is scanned as these wherever it
occurs, except that a word may not go on behind it; pieces are put together behind punctuation.
-/
namespace Retention.Json

/-- No word goes on into the text. -/
def Apart (text : List Char) : Prop := ∀ c ∈ text.head?, Token.isWordChar c = false

/-- The text is scanned as the tokens. -/
def Scans (text : List Char) (tokens : List Token) : Prop :=
  ∀ found rest, Apart rest →
    Token.scanFrom found (text ++ rest) = Token.scanFrom (tokens.reverse ++ found) rest

theorem apart_append {text rest : List Char} (apart : Apart text) (later : Apart rest) :
    Apart (text ++ rest) := by
  cases text with
  | nil => exact later
  | cons c text => exact apart

theorem apart_of_punctuation {c : Char} {token : Token} (mark : Token.punctuation? c = some token)
    (rest : List Char) : Apart (c :: rest) := by
  rintro _ ⟨⟩
  simp [Token.isWordChar, mark]

theorem apart_of_space {c : Char} (space : Token.isSpace c = true) (rest : List Char) :
    Apart (c :: rest) := by
  rintro _ ⟨⟩
  simp [Token.isWordChar, space]

theorem punctuation?_not_space {c : Char} {token : Token}
    (mark : Token.punctuation? c = some token) : Token.isSpace c = false := by
  unfold Token.punctuation? at mark
  split at mark <;> first | rfl | cases mark

namespace Scans

variable {text rest : List Char} {tokens others : List Token}

theorem nil : Scans [] [] := fun _ _ _ => rfl

theorem append (first : Scans text tokens) (second : Scans rest others) (apart : Apart rest) :
    Scans (text ++ rest) (tokens ++ others) := by
  intro found later later_apart
  rw [List.append_assoc, first found _ (apart_append apart later_apart),
    second _ later later_apart, List.reverse_append, List.append_assoc]

theorem punctuation {c : Char} {token : Token} (mark : Token.punctuation? c = some token)
    (scans : Scans rest others) : Scans (c :: rest) (token :: others) := by
  intro found later apart
  rw [List.cons_append, Token.scanFrom, punctuation?_not_space mark]
  simp only [Bool.false_eq_true, if_false, mark]
  rw [scans _ later apart, List.reverse_cons, List.append_assoc]
  rfl

theorem space {c : Char} (blank : Token.isSpace c = true) (scans : Scans rest others) :
    Scans (c :: rest) others := by
  intro found later apart
  rw [List.cons_append, Token.scanFrom, if_pos blank, scans _ later apart]

theorem spaces {gap : List Char} (blank : ∀ c ∈ gap, Token.isSpace c = true)
    (scans : Scans rest others) : Scans (gap ++ rest) others := by
  induction gap with
  | nil => exact scans
  | cons c gap ih =>
    exact space (blank c List.mem_cons_self) (ih fun c member => blank c (List.mem_cons_of_mem _ member))

theorem word {c : Char} {word : List Char} {token : Token}
    (inside : ∀ d ∈ c :: word, Token.isWordChar d = true)
    (read : Token.word? (c :: word) = some token) : Scans (c :: word) [token] := by
  intro found later apart
  have first := inside c List.mem_cons_self
  simp only [Token.isWordChar, Bool.and_eq_true, Bool.not_eq_true', Option.isNone_iff_eq_none,
    bne_iff_ne] at first
  obtain ⟨⟨space, mark⟩, quote⟩ := first
  have tail : ∀ d ∈ word, Token.isWordChar d = true :=
    fun d member => inside d (List.mem_cons_of_mem _ member)
  rw [List.cons_append, Token.scanFrom, space]
  simp only [Bool.false_eq_true, if_false, mark, if_neg quote]
  rw [Text.takeWhile_run tail apart, Text.dropWhile_run tail apart, read]
  rfl

/-- Members between commas, with gaps behind the commas and before the closing bracket. -/
theorem members {texts : List (List Char)} {tokenLists : List (List Token)} {gap last : List Char}
    {close : Char} {closing : Token} (gap_blank : ∀ c ∈ gap, Token.isSpace c = true)
    (last_blank : ∀ c ∈ last, Token.isSpace c = true)
    (mark : Token.punctuation? close = some closing)
    (each : List.Forall₂ Scans texts tokenLists) :
    Scans (List.intercalate (',' :: gap) texts ++ (last ++ [close]))
      (List.intercalate [.comma] tokenLists ++ [closing]) := by
  have finish : Scans (last ++ [close]) [closing] := spaces last_blank (punctuation mark nil)
  have finish_apart : Apart (last ++ [close]) := by
    cases last with
    | nil => exact apart_of_punctuation mark []
    | cons c last => exact apart_of_space (last_blank c List.mem_cons_self) _
  induction each with
  | nil => exact finish
  | @cons text tokens texts tokenLists first later ih =>
    cases later with
    | nil =>
      rw [List.intercalate_singleton, List.intercalate_singleton]
      exact first.append finish finish_apart
    | cons second others =>
      rw [List.intercalate_cons_cons, List.intercalate_cons_cons]
      simp only [List.append_assoc, List.cons_append, List.nil_append]
      have comma : Token.punctuation? ',' = some .comma := rfl
      exact first.append (punctuation comma (spaces gap_blank ih)) (apart_of_punctuation comma _)

end Scans

/-! Texts. -/

namespace Token

private theorem hexPadded_control : ∀ code < 32,
    (Text.hexPadded false 4 code).toList.length = 4 ∧
      Text.hexValue? (Text.hexPadded false 4 code).toList = some code := by
  decide +kernel

theorem quoted?_plain {c : Char} {units : List Nat} {rest : List Char} (quote : c ≠ '"')
    (slash : c ≠ '\\') (printable : ¬ c.toNat < 0x20) :
    quoted? units (c :: rest) = quoted? (c.toNat :: units) rest := by
  have kept : ¬ (c.toNat < 0x20 || c = '\\') = true := by simp [printable, slash]
  rw [quoted?.eq_def]
  split
  case h_5 same =>
    cases same
    exact if_neg kept
  all_goals simp_all

theorem quoted?_escaped (c : Char) (units : List Nat) (rest : List Char) :
    quoted? units (escaped c ++ rest) = quoted? (c.toNat :: units) rest := by
  unfold escaped
  split
  case h_8 =>
    split
    · rename_i control
      obtain ⟨four, value⟩ := hexPadded_control c.toNat control
      obtain ⟨x, y, z, w, digits⟩ := List.length_eq_four.mp four
      rw [digits] at value
      simp only [digits, List.cons_append, List.nil_append]
      rw [quoted?]
      simp only [value]
    · rename_i quote slash _ _ _ _ _ printable
      exact quoted?_plain quote slash printable
  all_goals rfl

theorem quoted?_quote (text : List Char) (units : List Nat) (rest : List Char) :
    quoted? units (text.flatMap escaped ++ '"' :: rest) =
      some (units.reverse ++ text.map Char.toNat, rest) := by
  induction text generalizing units with
  | nil => simp [quoted?]
  | cons c text ih =>
    rw [List.flatMap_cons, List.append_assoc, quoted?_escaped, ih]
    simp

theorem characters?_toNat (text : List Char) : characters? (text.map Char.toNat) = some text := by
  induction text with
  | nil => rfl
  | cons c text ih =>
    have valid : c.toNat < 0xD800 ∨ (0xDFFF < c.toNat ∧ c.toNat < 0x110000) := c.valid
    rw [List.map_cons, characters?.eq_def]
    simp only
    rw [if_neg (by omega), if_neg (by omega), ih, Option.map_some, Char.ofNat_toNat]

theorem wholeDigits_toDigits (n : Nat) : wholeDigits (Nat.toDigits 10 n) = true := by
  have digits : (Nat.toDigits 10 n).all Text.isDigit = true :=
    List.all_eq_true.mpr fun _ => Text.isDigit_of_mem_toDigits
  by_cases zero : (Nat.toDigits 10 n).head? = some '0'
  · rw [Text.head?_toDigits zero]
    rfl
  · simp [wholeDigits, digits, zero]

private theorem digit_ne {c : Char} (digit : Text.isDigit c = true) :
    c ≠ 'n' ∧ c ≠ 't' ∧ c ≠ 'f' ∧ c ≠ '-' := by
  refine ⟨?_, ?_, ?_, ?_⟩ <;> rintro rfl <;> exact absurd digit (by decide)

private theorem digits_run (n : Nat) :
    (Nat.toDigits 10 n).takeWhile Text.isDigit = Nat.toDigits 10 n ∧
      (Nat.toDigits 10 n).dropWhile Text.isDigit = [] := by
  have inside : ∀ c ∈ Nat.toDigits 10 n, Text.isDigit c = true :=
    fun _ => Text.isDigit_of_mem_toDigits
  have stop : ∀ c ∈ ([] : List Char).head?, Text.isDigit c = false := by simp
  have taken := Text.takeWhile_run inside stop
  have dropped := Text.dropWhile_run inside stop
  rw [List.append_nil] at taken dropped
  exact ⟨taken, dropped⟩

theorem word?_natural (n : Nat) : word? (Nat.toDigits 10 n) = some (.int n) := by
  obtain ⟨taken, dropped⟩ := digits_run n
  have whole := wholeDigits_toDigits n
  have value := Text.digitsValue_toDigits n
  obtain ⟨c, rest, digits⟩ := List.exists_cons_of_ne_nil (Nat.toDigits_ne_nil (n := n) (b := 10))
  have member : c ∈ Nat.toDigits 10 n := digits ▸ List.mem_cons_self
  have first := digit_ne (Text.isDigit_of_mem_toDigits member)
  rw [digits] at taken dropped whole value ⊢
  simp [word?, first, taken, dropped, whole, value]

theorem word?_negative {n : Nat} (positive : 0 < n) :
    word? ('-' :: Nat.toDigits 10 n) = some (.int (-n)) := by
  obtain ⟨taken, dropped⟩ := digits_run n
  have nonzero : n ≠ 0 := Nat.ne_of_gt positive
  simp [word?, taken, dropped, wholeDigits_toDigits, nonzero]

/-- The characters that end a word. -/
def delimiters : List Char := [' ', '\t', '\n', '\r', '[', ']', '{', '}', ':', ',', '"']

theorem mem_delimiters {c : Char} (outside : isWordChar c = false) : c ∈ delimiters := by
  unfold isWordChar isSpace punctuation? at outside
  split at outside <;> simp_all [delimiters]
  tauto

theorem isWordChar_of_isDigit {c : Char} (digit : Text.isDigit c = true) : isWordChar c = true := by
  have none : ∀ d ∈ delimiters, Text.isDigit d = false := by simp [delimiters, Text.isDigit]
  by_contra outside
  exact Text.not_mem_of_all_false none digit (mem_delimiters (Bool.not_eq_true _ ▸ outside))

end Token

namespace Scans

theorem quote (text : String) : Scans (quote text).toList [.text (some text)] := by
  intro found rest _
  have content : Token.quoted? [] (text.toList.flatMap escaped ++ '"' :: rest) =
      some (text.toList.map Char.toNat, rest) := by
    rw [Token.quoted?_quote, List.reverse_nil, List.nil_append]
  have shape : (Json.quote text).toList ++ rest =
      '"' :: (text.toList.flatMap escaped ++ '"' :: rest) := by
    simp [Json.quote]
  rw [shape, Token.scanFrom]
  split
  · rename_i space
    exact absurd space (by decide)
  · split
    · rename_i mark
      cases mark
    · rw [if_pos rfl]
      split
      · rename_i failed
        rw [content] at failed
        cases failed
      · rename_i read
        rw [content] at read
        cases read
        rw [Token.characters?_toNat, Option.map_some, String.ofList_toList]
        rfl

theorem natural (n : Nat) : Scans (Nat.toDigits 10 n) [.int n] := by
  have inside : ∀ c ∈ Nat.toDigits 10 n, Token.isWordChar c = true :=
    fun _ member => Token.isWordChar_of_isDigit (Text.isDigit_of_mem_toDigits member)
  have read := Token.word?_natural n
  obtain ⟨c, rest, digits⟩ := List.exists_cons_of_ne_nil (Nat.toDigits_ne_nil (n := n) (b := 10))
  rw [digits] at inside read ⊢
  exact word inside read

theorem integer (value : Int) : Scans (toString value).toList [.int value] := by
  rw [Int.toString_eq_repr, Int.repr_eq_if]
  split
  · rename_i nonneg
    rw [Nat.toList_repr]
    have scans := natural value.toNat
    rwa [Int.toNat_of_nonneg nonneg] at scans
  · rename_i negative
    have positive : 0 < (-value).toNat := by omega
    have inside : ∀ c ∈ '-' :: Nat.toDigits 10 (-value).toNat, Token.isWordChar c = true := by
      intro c member
      rcases List.mem_cons.mp member with rfl | digit
      · rfl
      · exact Token.isWordChar_of_isDigit (Text.isDigit_of_mem_toDigits digit)
    have scans := word inside (Token.word?_negative positive)
    rw [Int.toNat_of_nonneg (by omega), Int.neg_neg] at scans
    simpa using scans

end Scans

end Retention.Json
