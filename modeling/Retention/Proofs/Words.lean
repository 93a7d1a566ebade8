import Retention.Proofs.Except
import Retention.Proofs.Text

/-!
Words, the numbers below `2 ^ 64`. A text is read as a word exactly if it is a numeral of that value, with a plus
sign in front of it or none: reading stops where the value passes the bound, and from there it could only grow.
-/
namespace Retention.Text

/-- The digits of the word, behind a plus sign or not. -/
inductive Spells (word : UInt64) : List Char → Prop
  | bare {digits : List Char} (read : numeral? digits = some word.toNat) : Spells word digits
  | signed {digits : List Char} (read : numeral? digits = some word.toNat) : Spells word ('+' :: digits)

section Words

variable {value word next : UInt64} {text digits : List Char} {c : Char}

theorem addDigit_eq_ok_iff : addDigit value c = .ok next ↔
    isDigit c = true ∧ 10 * value.toNat + digitValue c = next.toNat := by
  rw [addDigit]
  cases isDigit c with
  | false => simp
  | true =>
    rw [if_neg (by decide), and_iff_right rfl]
    dsimp only
    split
    · rw [Except.ok.injEq, ← UInt64.toNat_inj, UInt64.toNat_ofNatLT]
    · rename_i large
      have small := next.toNat_lt_size
      simp only [reduceCtorEq, false_iff]
      omega

theorem foldlM_addDigit_eq_ok_iff : digits.foldlM addDigit value = .ok word ↔
    (∀ c ∈ digits, isDigit c = true) ∧ Nat.ofDigitChars 10 digits value.toNat = word.toNat := by
  induction digits generalizing value with
  | nil => simp [pure, Except.pure, UInt64.toNat_inj]
  | cons c digits ih =>
    rw [List.foldlM_cons, bind_eq_ok_iff, List.forall_mem_cons, Nat.ofDigitChars_cons]
    simp only [addDigit_eq_ok_iff, ih]
    constructor
    · rintro ⟨next, ⟨digit, value⟩, rest, total⟩
      rw [← value] at total
      exact ⟨⟨digit, rest⟩, total⟩
    · rintro ⟨⟨digit, rest⟩, total⟩
      -- Later digits only add to the value, so it is within the bound here.
      have grown : 10 * value.toNat + digitValue c ≤ word.toNat := by
        rw [← total, Nat.ofDigitChars_eq_ofDigitChars_zero]
        exact Nat.le_add_right_of_le (Nat.le_mul_of_pos_left _ (Nat.pow_pos (by decide)))
      have bound := Nat.lt_of_le_of_lt grown word.toNat_lt_size
      exact ⟨.ofNatLT _ bound, ⟨digit, rfl⟩, rest, total⟩

theorem readDigits_eq_ok_iff : readDigits digits = .ok word ↔ numeral? digits = some word.toNat := by
  rw [numeral?_eq_some_iff]
  cases digits with
  | nil => simp [readDigits]
  | cons c digits =>
    have filled : c :: digits ≠ [] := List.cons_ne_nil c digits
    rw [readDigits, foldlM_addDigit_eq_ok_iff, UInt64.toNat_zero, and_iff_right filled]
    exact filled

theorem readWord_eq_ok_iff : readWord (.ofList text) = .ok word ↔ Spells word text := by
  rw [readWord, String.toList_ofList]
  constructor
  · intro read
    split at read
    · cases read
    · exact .signed (readDigits_eq_ok_iff.mp read)
    · exact .bare (readDigits_eq_ok_iff.mp read)
  · intro spells
    cases spells with
    | signed read => exact readDigits_eq_ok_iff.mpr read
    | bare read =>
      split
      · cases read
      · cases (numeral?_eq_some_iff.mp read).2.1 '+' List.mem_cons_self
      · exact readDigits_eq_ok_iff.mpr read

theorem word64?_eq_some_iff : word64? (.ofList text) = some word ↔ Spells word text := by
  rw [← readWord_eq_ok_iff, word64?]
  cases readWord (.ofList text) <;> simp [Except.toOption]

theorem Spells.visible (spells : Spells word text) :
    text ≠ [] ∧ ∀ c ∈ text, isBlank c = false := by
  cases spells with
  | bare read =>
    obtain ⟨filled, each, -⟩ := numeral?_eq_some_iff.mp read
    exact ⟨filled, fun c member => isBlank_of_isDigit (each c member)⟩
  | signed read =>
    obtain ⟨-, each, -⟩ := numeral?_eq_some_iff.mp read
    have plus : isBlank '+' = false := by decide
    refine ⟨List.cons_ne_nil _ _, List.forall_mem_cons.mpr ⟨plus, ?_⟩⟩
    intro c member
    exact isBlank_of_isDigit (each c member)

end Words

end Retention.Text
