import Mathlib.Data.Nat.PSub
import Retention.Report.Terminal

/-!
Long cells. A text over the limit keeps a beginning and an end, as nearly as long as each other as they can be,
and three dots stand for the rest, so that the limit is met exactly. Where the ends are cut is found without ever
going below zero.
-/
namespace Retention
namespace Terminal

def dots : List Char := ['.', '.', '.']

/-- The dots stand for the middle of the text, which is longer than they are. -/
inductive Elides (limit : Nat) : List Char → List Char → Prop
  | middle {front middle back : List Char} (filled : front.length + dots.length + back.length = limit)
      (even : back.length = front.length ∨ back.length = front.length + 1)
      (longer : dots.length < middle.length) : Elides limit (front ++ middle ++ back) (front ++ dots ++ back)

/-- The text is cut by differences that fail below zero. Only what the dots leave of the limit stops there. -/
def truncateMiddle? (limit : Nat) (text : List Char) : Option (List Char) :=
  if text.length ≤ limit then some text
  else do
    let kept := limit - dots.length
    let left := kept / 2
    let right ← kept.psub left
    let start ← text.length.psub right
    some (text.take left ++ dots ++ text.drop start)

variable {limit : Nat} {text : List Char}

theorem truncateMiddle_of_le (short : text.length ≤ limit) : truncateMiddle limit text = text := if_pos short

theorem truncateMiddle?_eq (limit : Nat) (text : List Char) :
    truncateMiddle? limit text = some (truncateMiddle limit text) := by
  unfold truncateMiddle? truncateMiddle
  split
  · rfl
  · rename_i long
    have half : (limit - dots.length) / 2 ≤ limit - dots.length := Nat.div_le_self _ 2
    have inside : limit - dots.length - (limit - dots.length) / 2 ≤ text.length := by omega
    simp only [Nat.psub_eq_sub half, Nat.psub_eq_sub inside, Option.bind_eq_bind, Option.bind_some]
    rfl

/-- What stands between two ends that do not overlap. -/
theorem exists_middle (text : List Char) {left right : Nat} (apart : left + right ≤ text.length) :
    ∃ middle, text = text.take left ++ middle ++ text.drop (text.length - right) ∧
      (text.take left).length = left ∧ (text.drop (text.length - right)).length = right ∧
      left + middle.length + right = text.length := by
  refine ⟨(text.drop left).take (text.length - right - left), ?_, List.length_take_of_le (by omega), ?_, ?_⟩
  · have rest : (text.drop left).drop (text.length - right - left) = text.drop (text.length - right) := by
      rw [List.drop_drop, Nat.add_sub_cancel' (by omega)]
    rw [List.append_assoc, ← rest, List.take_append_drop, List.take_append_drop]
  · rw [List.length_drop]
    omega
  · rw [List.length_take, List.length_drop]
    omega

theorem elides_truncateMiddle (room : 3 ≤ limit) (long : limit < text.length) :
    Elides limit text (truncateMiddle limit text) := by
  have three : dots.length = 3 := rfl
  have apart : (limit - 3) / 2 + (limit - 3 - (limit - 3) / 2) ≤ text.length := by omega
  obtain ⟨middle, whole, front, back, lengths⟩ := exists_middle text apart
  have elides : Elides limit
      (text.take ((limit - 3) / 2) ++ middle ++ text.drop (text.length - (limit - 3 - (limit - 3) / 2)))
      (text.take ((limit - 3) / 2) ++ dots ++ text.drop (text.length - (limit - 3 - (limit - 3) / 2))) :=
    .middle (by omega) (by omega) (by omega)
  rw [truncateMiddle, if_neg (Nat.not_le.mpr long)]
  rwa [← whole] at elides

theorem Elides.length_eq {short : List Char} (elides : Elides limit text short) : short.length = limit := by
  cases elides with
  | middle filled => simpa [Nat.add_assoc] using filled

theorem truncateMiddle_eq_dots (small : limit < 3) (long : limit < text.length) :
    truncateMiddle limit text = dots := by
  have none : limit - 3 = 0 := Nat.sub_eq_zero_of_le (Nat.le_of_lt small)
  simp [truncateMiddle, Nat.not_le.mpr long, none, dots]

theorem truncateMiddle_truncateMiddle (limit : Nat) (text : List Char) :
    truncateMiddle limit (truncateMiddle limit text) = truncateMiddle limit text := by
  by_cases long : limit < text.length
  · by_cases room : 3 ≤ limit
    · exact truncateMiddle_of_le (Nat.le_of_eq (elides_truncateMiddle room long).length_eq)
    · have small := Nat.not_le.mp room
      rw [truncateMiddle_eq_dots small long]
      exact truncateMiddle_eq_dots small small
  · rw [truncateMiddle_of_le (Nat.not_lt.mp long), truncateMiddle_of_le (Nat.not_lt.mp long)]

/-- A text within the limit stays as it is, and a longer one is cut to the limit in its middle. Cutting again changes
nothing, and no cut is sought in front of the text. -/
theorem truncateMiddle_elides (limit : Nat) (text : List Char) :
    (text.length ≤ limit → truncateMiddle limit text = text) ∧
    (3 ≤ limit → (truncateMiddle limit text).length = min text.length limit ∧
      (limit < text.length → Elides limit text (truncateMiddle limit text))) ∧
    truncateMiddle limit (truncateMiddle limit text) = truncateMiddle limit text ∧
    truncateMiddle? limit text = some (truncateMiddle limit text) := by
  refine ⟨truncateMiddle_of_le, fun room => ⟨?_, elides_truncateMiddle room⟩,
    truncateMiddle_truncateMiddle limit text, truncateMiddle?_eq limit text⟩
  by_cases long : limit < text.length
  · rw [(elides_truncateMiddle room long).length_eq, Nat.min_eq_right (Nat.le_of_lt long)]
  · rw [truncateMiddle_of_le (Nat.not_lt.mp long), Nat.min_eq_left (Nat.not_lt.mp long)]

theorem truncateMiddle_elides_umlauts :
    "ändern".toList.length ≤ 9 ∧ truncateMiddle 9 "ändern".toList = "ändern".toList ∧
    3 ≤ 9 ∧ 9 < "größenänderung".toList.length ∧
    Elides 9 "größenänderung".toList "grö...ung".toList ∧
    truncateMiddle? 9 "größenänderung".toList = some "grö...ung".toList := by
  have short : "ändern".toList.length ≤ 9 := by decide
  have room : 3 ≤ 9 := by decide
  have long : 9 < "größenänderung".toList.length := by decide
  have cut : truncateMiddle 9 "größenänderung".toList = "grö...ung".toList := by decide
  obtain ⟨whole, -⟩ := truncateMiddle_elides 9 "ändern".toList
  obtain ⟨-, fits, -, checked⟩ := truncateMiddle_elides 9 "größenänderung".toList
  rw [cut] at fits checked
  exact ⟨short, whole short, room, long, (fits room).2 long, checked⟩

end Terminal
end Retention
