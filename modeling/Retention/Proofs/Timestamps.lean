import Mathlib.Data.List.Basic
import Mathlib.Data.List.TakeWhile
import Retention.Proofs.Calendar
import Retention.Proofs.Text
import Retention.Time.Timestamp

/-!
The internet form of an instant: a date, a time of day, a fraction of a second or none, and a zone. However these are
spelled, they are read as what they stand for, and so written instants are read back, with their fraction of a
second and their offset. Every instant of a year that is not negative has a written form.
-/
namespace Retention

theorem Clock.of?_self (clock : Clock) :
    Clock.of? clock.hour clock.minute clock.second clock.nano = some clock := by
  simp [Clock.of?, clock.hour_lt, clock.minute_lt, clock.second_lt, clock.nano_lt]

theorem Clock.of?_eq_some_iff {hour minute second nano : Nat} {clock : Clock} :
    Clock.of? hour minute second nano = some clock ↔
      clock.hour = hour ∧ clock.minute = minute ∧ clock.second = second ∧ clock.nano = nano := by
  constructor
  · intro found
    unfold Clock.of? at found
    split at found
    · split at found
      · split at found
        · split at found
          · cases found
            exact ⟨rfl, rfl, rfl, rfl⟩
          · cases found
        · cases found
      · cases found
    · cases found
  · rintro ⟨rfl, rfl, rfl, rfl⟩
    exact clock.of?_self

namespace Timestamp

theorem exists_two_digits {n : Nat} (bound : n < 100) :
    ∃ a b, (Text.padded 2 n).toList = [a, b] ∧ twoDigits? a b = some n := by
  obtain ⟨a, b, digits⟩ := List.length_eq_two.mp (Text.length_padded (by decide) bound)
  have read := Text.numeral?_padded 2 n
  rw [digits] at read
  exact ⟨a, b, digits, read⟩

theorem exists_four_digits {n : Nat} (bound : n < 10000) :
    ∃ a b c d, (Text.padded 4 n).toList = [a, b, c, d] ∧
      Text.numeral? [a, b, c, d] = some n := by
  obtain ⟨a, b, c, d, digits⟩ := List.length_eq_four.mp (Text.length_padded (by decide) bound)
  have read := Text.numeral?_padded 4 n
  rw [digits] at read
  exact ⟨a, b, c, d, digits, read⟩

/-! Zones. -/

/-- The text is the zone so many minutes east of UTC. -/
inductive Zone : Int → String → Prop
  | utc : Zone 0 "Z"
  | east {hours minutes : Nat} (day : hours < 24) (hour : minutes < 60) :
      Zone (hours * 60 + minutes : Nat) ("+" ++ Text.padded 2 hours ++ ":" ++ Text.padded 2 minutes)
  | west {hours minutes : Nat} (day : hours < 24) (hour : minutes < 60) :
      Zone (-(hours * 60 + minutes : Nat)) ("-" ++ Text.padded 2 hours ++ ":" ++ Text.padded 2 minutes)

section Zones

variable {offset : Int} {text : String}

theorem Zone.bounds (zone : Zone offset text) : -1440 < offset ∧ offset < 1440 := by
  cases zone <;> omega

theorem offset?_zone (zone : Zone offset text) : offset? text.toList = some ⟨offset, zone.bounds⟩ := by
  cases zone with
  | utc => rfl
  | @east hours minutes day hour =>
    obtain ⟨h₁, h₂, hourDigits, hours⟩ := exists_two_digits (n := hours) (by omega)
    obtain ⟨m₁, m₂, minuteDigits, minutes⟩ := exists_two_digits (n := minutes) (by omega)
    simp [hourDigits, minuteDigits, offset?, hours, minutes, day, hour]
  | @west hours minutes day hour =>
    obtain ⟨h₁, h₂, hourDigits, hours⟩ := exists_two_digits (n := hours) (by omega)
    obtain ⟨m₁, m₂, minuteDigits, minutes⟩ := exists_two_digits (n := minutes) (by omega)
    simp [hourDigits, minuteDigits, offset?, hours, minutes, day, hour]

theorem zone_offsetText (bounds : -1440 < offset ∧ offset < 1440) : Zone offset (offsetText offset) := by
  have day : offset.natAbs / 60 < 24 := by omega
  have hour : offset.natAbs % 60 < 60 := Nat.mod_lt _ (by decide)
  rw [offsetText]
  split
  · rename_i zero
    subst zero
    exact .utc
  · by_cases west : offset < 0
    · have zone := Zone.west day hour
      rw [if_pos west]
      rwa [show -((offset.natAbs / 60 * 60 + offset.natAbs % 60 : Nat) : Int) = offset by omega] at zone
    · have zone := Zone.east day hour
      rw [if_neg west]
      rwa [show ((offset.natAbs / 60 * 60 + offset.natAbs % 60 : Nat) : Int) = offset by omega] at zone

/-- A zone begins with neither a digit nor a point, so that a fraction in front of it ends there. -/
theorem Zone.apart (zone : Zone offset text) : ∀ c ∈ text.toList.head?, Text.isDigit c = false ∧ c ≠ '.' := by
  cases zone with
  | utc =>
    rintro _ ⟨⟩
    decide
  | east | west => simp; decide

theorem Zone.visible (zone : Zone offset text) : ∀ c ∈ text.toList, Text.isBlank c = false := by
  have digits (n : Nat) : ∀ c ∈ (Text.padded 2 n).toList, Text.isBlank c = false := fun c member =>
    Text.isBlank_of_isDigit (Text.isDigit_of_mem_padded member)
  cases zone with
  | utc => exact Text.visible_of_all (by decide)
  | @east hours minutes | @west hours minutes =>
    simp only [String.toList_append, List.forall_mem_append]
    exact ⟨⟨⟨Text.visible_of_all (by decide), digits hours⟩, Text.visible_of_all (by decide)⟩, digits minutes⟩

end Zones

/-! Fractions. -/

/-- The digits count a tenth of the unit each, a tenth of that, and so on; what is below one counts for nothing. -/
def tenths (unit : Nat) : List Char → Nat
  | [] => 0
  | c :: digits => Text.digitValue c * (unit / 10) + tenths (unit / 10) digits

/-- The text is a fraction of a second, in nanoseconds, or nothing for none. -/
inductive Fraction : Nat → String → Prop
  | none : Fraction 0 ""
  | point {digits : List Char} (filled : digits ≠ []) (each : ∀ c ∈ digits, Text.isDigit c = true) :
      Fraction (tenths 1000000000 digits) ("." ++ .ofList digits)

section Fractions

theorem tenths_zero (digits : List Char) : tenths 0 digits = 0 := by
  induction digits with
  | nil => rfl
  | cons c digits ih => rw [tenths, Nat.zero_div, Nat.mul_zero, ih]

theorem tenths_eq (places : Nat) (digits : List Char) :
    tenths (10 ^ places) digits = Text.digitsValue (digits.take places) * 10 ^ (places - digits.length) := by
  induction digits generalizing places with
  | nil => simp [tenths, Text.digitsValue]
  | cons c digits ih =>
    cases places with
    | zero => simp [tenths, tenths_zero, Text.digitsValue]
    | succ places =>
      have moved : min places digits.length + (places - digits.length) = places := by omega
      rw [tenths, Nat.pow_succ, Nat.mul_div_cancel _ (by decide), ih, List.take_succ_cons, List.length_cons,
        Nat.add_sub_add_right, Text.digitsValue_cons, List.length_take, Nat.add_mul, Nat.mul_assoc, ← Nat.pow_add,
        moved]

theorem fraction_eq (digits : List Char) : fraction digits = tenths 1000000000 digits :=
  (tenths_eq 9 digits).symm

theorem tenths_lt (places : Nat) {digits : List Char} (each : ∀ c ∈ digits, Text.isDigit c = true) :
    tenths (10 ^ places) digits < 10 ^ places := by
  induction digits generalizing places with
  | nil => exact Nat.pow_pos (by decide)
  | cons c digits ih =>
    obtain ⟨digit, later⟩ := List.forall_mem_cons.mp each
    cases places with
    | zero => simp [tenths, tenths_zero]
    | succ places =>
      have first := Nat.mul_le_mul_right (10 ^ places) (Text.digitValue_le digit)
      have rest := ih places later
      rw [tenths, Nat.pow_succ, Nat.mul_div_cancel _ (by decide)]
      omega

theorem Fraction.lt {nanos : Nat} {text : String} (fraction : Fraction nanos text) : nanos < 1000000000 := by
  cases fraction with
  | none => decide
  | point filled each => exact tenths_lt 9 each

/-- The digits of a fraction, with the zeros that were left out at its end. -/
theorem digits_eq (digits : List Char) :
    ∃ zeros, digits = (digits.reverse.dropWhile (· = '0')).reverse ++ List.replicate zeros '0' := by
  refine ⟨(digits.reverse.takeWhile (· = '0')).length, ?_⟩
  have zeros : digits.reverse.takeWhile (· = '0') =
      List.replicate (digits.reverse.takeWhile (· = '0')).length '0' :=
    List.eq_replicate_of_mem fun c member => by simpa using List.mem_takeWhile_imp member
  have whole := congrArg List.reverse
    (List.takeWhile_append_dropWhile (p := (· = '0')) (l := digits.reverse))
  rw [List.reverse_append, List.reverse_reverse, zeros, List.reverse_replicate] at whole
  exact whole.symm

theorem fraction_shortened {nano zeros : Nat} {digits : List Char} (bound : nano < 1000000000)
    (same : (Text.padded 9 nano).toList = digits ++ List.replicate zeros '0') :
    fraction digits = nano := by
  have nine : (Text.padded 9 nano).toList.length = 9 := Text.length_padded (by decide) bound
  have value := Text.digitsValue_padded 9 nano
  rw [same] at nine value
  rw [List.length_append, List.length_replicate] at nine
  rw [Text.digitsValue_eq, Nat.ofDigitChars_append, Nat.ofDigitChars_replicate_zero] at value
  have rest : 9 - digits.length = zeros := by omega
  rw [fraction, List.take_of_length_le (by omega), rest, Text.digitsValue_eq, Nat.mul_comm]
  exact value

theorem Fraction.visible {nanos : Nat} {text : String} (fraction : Fraction nanos text) :
    ∀ c ∈ text.toList, Text.isBlank c = false := by
  cases fraction with
  | none => exact Text.visible_of_all (by decide)
  | point filled each =>
    simp only [String.toList_append, String.toList_ofList, List.forall_mem_append]
    exact ⟨Text.visible_of_all (by decide), fun c member => Text.isBlank_of_isDigit (each c member)⟩

theorem fraction_fractionText {nano : Nat} (bound : nano < 1000000000) : Fraction nano (fractionText nano) := by
  by_cases whole : nano = 0
  · rw [whole]
    exact .none
  · obtain ⟨zeros, same⟩ := digits_eq (Text.padded 9 nano).toList
    have written : fractionText nano =
        "." ++ .ofList ((Text.padded 9 nano).toList.reverse.dropWhile (· = '0')).reverse := by
      simp [fractionText, whole]
    have value := fraction_shortened bound same
    rw [written]
    generalize ((Text.padded 9 nano).toList.reverse.dropWhile (· = '0')).reverse = shown at same value
    have inside : ∀ c ∈ shown, Text.isDigit c = true := fun c member =>
      Text.isDigit_of_mem_padded (same ▸ List.mem_append_left _ member)
    have filled : shown ≠ [] := by
      rintro rfl
      exact whole value.symm
    have point := Fraction.point filled inside
    rwa [← fraction_eq, value] at point

end Fractions

/-- A date and a time of day, with the fraction of a second and the zone behind them. -/
theorem internet?_spelled (instant : Instant) {fraction zone : String}
    (divided : Fraction instant.clock.nano fraction) (zoned : Zone instant.offset zone)
    {y₁ y₂ y₃ y₄ m₁ m₂ d₁ d₂ h₁ h₂ n₁ n₂ s₁ s₂ : Char}
    (dated : date? [y₁, y₂, y₃, y₄] m₁ m₂ d₁ d₂ = some instant.date)
    (hour : twoDigits? h₁ h₂ = some instant.clock.hour)
    (minute : twoDigits? n₁ n₂ = some instant.clock.minute)
    (second : twoDigits? s₁ s₂ = some instant.clock.second) :
    internet? (y₁ :: y₂ :: y₃ :: y₄ :: '-' :: m₁ :: m₂ :: '-' :: d₁ :: d₂ :: 'T' ::
      h₁ :: h₂ :: ':' :: n₁ :: n₂ :: ':' :: s₁ :: s₂ :: (fraction.toList ++ zone.toList)) = some instant := by
  have read (nano : Nat) (same : nano = instant.clock.nano) :
      internetOf? instant.date instant.clock.hour instant.clock.minute instant.clock.second nano
        zone.toList = some instant := by
    have below : instant.clock.second ≠ 60 := Nat.ne_of_lt instant.clock.second_lt
    rw [internetOf?, offset?_zone zoned]
    simp [below, same, Clock.of?_self]
  have early : 'T'.toNat < 128 := by decide
  have apart := zoned.apart
  generalize nanos_eq : instant.clock.nano = nanos at divided
  cases divided with
  | none =>
    rw [String.toList_empty, List.nil_append]
    simp only [internet?, early, if_true, dated, hour, minute, second, Option.bind_eq_bind, Option.bind_some]
    split
    · rename_i rest text
      exact absurd rfl (apart '.' (by rw [text]; rfl)).2
    · exact read 0 nanos_eq.symm
  | @point digits filled each =>
    have stop : ∀ c ∈ zone.toList.head?, Text.isDigit c = false := fun c first => (apart c first).1
    have point : ("." ++ String.ofList digits).toList = '.' :: digits := by simp
    have filled : digits.isEmpty = false := by simpa using filled
    rw [point]
    simp only [List.cons_append, internet?, early, if_true, dated, hour, minute, second, Option.bind_eq_bind,
      Option.bind_some, Text.takeWhile_run each stop, Text.dropWhile_run each stop, filled, Bool.false_eq_true,
      if_false]
    exact read _ ((fraction_eq digits).trans nanos_eq.symm)

/-- The written form of an instant denotes the instant. -/
theorem internet?_internetText {instant : Instant} {text : String}
    (written : internetText? instant = some text) : internet? text.toList = some instant := by
  unfold internetText? at written
  split at written
  · cases written
  · rename_i nonneg
    rw [← Option.some.inj written]
    have year_bounds := instant.date.year_bounds
    have month_bounds := instant.date.month_bounds
    have day_bounds := instant.date.day_bounds
    have hour_lt := instant.clock.hour_lt
    have minute_lt := instant.clock.minute_lt
    have second_lt := instant.clock.second_lt
    have days : Calendar.daysInMonth instant.date.year instant.date.month ≤ 31 := by
      unfold Calendar.daysInMonth
      split <;> try split
      all_goals omega
    obtain ⟨y₁, y₂, y₃, y₄, yearDigits, year⟩ :=
      exists_four_digits (n := instant.date.year.toNat) (by omega)
    obtain ⟨m₁, m₂, monthDigits, month⟩ := exists_two_digits (n := instant.date.month) (by omega)
    obtain ⟨d₁, d₂, dayDigits, day⟩ := exists_two_digits (n := instant.date.day) (by omega)
    obtain ⟨h₁, h₂, hourDigits, hour⟩ := exists_two_digits (n := instant.clock.hour) (by omega)
    obtain ⟨n₁, n₂, minuteDigits, minute⟩ :=
      exists_two_digits (n := instant.clock.minute) (by omega)
    obtain ⟨s₁, s₂, secondDigits, second⟩ :=
      exists_two_digits (n := instant.clock.second) (by omega)
    have dated : date? [y₁, y₂, y₃, y₄] m₁ m₂ d₁ d₂ = some instant.date := by
      simp [date?, year, month, day, Int.toNat_of_nonneg (Int.not_lt.mp nonneg), Date.of?_self]
    have read := internet?_spelled instant (fraction_fractionText instant.clock.nano_lt)
      (zone_offsetText instant.offset_bounds) dated hour minute second
    simpa [clockText, yearDigits, monthDigits, dayDigits, hourDigits, minuteDigits, secondDigits]
      using read

end Timestamp
end Retention
