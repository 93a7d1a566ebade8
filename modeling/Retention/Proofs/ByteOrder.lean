import Mathlib.Tactic.SplitIfs
import Retention.Text.Utf8

/-!
The order of texts is that of their bytes. Characters in order have their encodings in order, whatever
follows them, since a longer encoding begins with a greater byte and otherwise the digits in base 64 decide.
-/
namespace Retention.Text.Utf8

private theorem byte_lt_iff {a b : Nat} (small : a < 256) (small' : b < 256) :
    UInt8.ofNat a < UInt8.ofNat b ↔ a < b := by
  rw [UInt8.lt_iff_toNat_lt, UInt8.toNat_ofNat', UInt8.toNat_ofNat', Nat.mod_eq_of_lt small,
    Nat.mod_eq_of_lt small']

private theorem byte_eq_iff {a b : Nat} (small : a < 256) (small' : b < 256) :
    UInt8.ofNat a = UInt8.ofNat b ↔ a = b := by
  rw [← UInt8.toNat_inj, UInt8.toNat_ofNat', UInt8.toNat_ofNat', Nat.mod_eq_of_lt small,
    Nat.mod_eq_of_lt small']

/-- Of two code points in base 64, the first digit that differs decides. -/
private theorem digits_lt {m n : Nat} (less : m < n) (bound : n < 0x110000) :
    m / 262144 % 8 < n / 262144 % 8 ∨ m / 262144 % 8 = n / 262144 % 8 ∧
      (m / 4096 % 64 < n / 4096 % 64 ∨ m / 4096 % 64 = n / 4096 % 64 ∧
        (m / 64 % 64 < n / 64 % 64 ∨ m / 64 % 64 = n / 64 % 64 ∧ m % 64 < n % 64)) := by
  have lead : m / 262144 % 8 = m / 262144 := Nat.mod_eq_of_lt (by omega)
  have lead' : n / 262144 % 8 = n / 262144 := Nat.mod_eq_of_lt (by omega)
  rw [lead, lead']
  omega

theorem encodeChar_lt {c d : Char} (less : c < d) (later others : List UInt8) :
    String.utf8EncodeChar c ++ later < String.utf8EncodeChar d ++ others := by
  have order : c.val.toNat < d.val.toNat := less
  have bound : d.val.toNat < 0x110000 := by
    have valid := d.valid
    simp only [UInt32.isValidChar, Nat.isValidChar] at valid
    omega
  have decided := digits_lt order bound
  unfold String.utf8EncodeChar
  generalize c.val.toNat = m at *
  generalize d.val.toNat = n at *
  dsimp only
  -- One case for each pair of lengths.
  split_ifs <;>
    simp (disch := omega) only [List.cons_append, List.nil_append, List.cons_lt_cons_iff, byte_lt_iff,
      byte_eq_iff] <;>
    omega

theorem encode_eq (text : String) : encode text = text.toList.flatMap String.utf8EncodeChar := by
  conv => lhs; rw [← String.ofList_toList (s := text)]
  show (String.ofList text.toList).toByteArray.data.toList = _
  rw [String.toByteArray_ofList]
  simp [List.utf8Encode]

theorem encode_lt_encode {a b : String} (less : a < b) : encode a < encode b := by
  rw [encode_eq, encode_eq]
  have chars : a.toList < b.toList := less
  generalize a.toList = before at chars
  generalize b.toList = after at chars
  induction chars with
  | @nil c after =>
    rw [List.flatMap_nil, List.flatMap_cons]
    obtain ⟨byte, rest, bytes⟩ := List.exists_cons_of_ne_nil (@String.utf8EncodeChar_ne_nil c)
    rw [bytes]
    exact List.nil_lt_cons _ _
  | rel first =>
    rw [List.flatMap_cons, List.flatMap_cons]
    exact encodeChar_lt first _ _
  | cons _ ih =>
    rw [List.flatMap_cons, List.flatMap_cons]
    exact List.append_left_lt ih

end Retention.Text.Utf8
