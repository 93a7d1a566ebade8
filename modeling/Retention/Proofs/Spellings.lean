import Mathlib.Data.List.Forall2
import Retention.Proofs.Timestamps

/-!
One moment in several spellings. A bare date and time of day means UTC; with a zone behind it, it is that much earlier
in UTC as the zone is east of it, and a fraction of a second in between makes it so much later. Blanks around it do
not matter. No text has both forms, so that it does not matter either which is tried first.
-/
namespace Retention

namespace Timestamp

/-- The text has a digit for each zero of the form, and otherwise the characters of the form. -/
def Fits (form text : List Char) : Prop :=
  List.Forall₂ (fun mark c => if mark = '0' then Text.isDigit c = true else c = mark) form text

/-- A year of four digits without a sign, and a time of day to the second. -/
def bareForm : List Char :=
  ['0', '0', '0', '0', '-', '0', '0', '-', '0', '0', 'T', '0', '0', ':', '0', '0', ':', '0', '0']

variable {text form : List Char} {instant : Instant} {c : Char}

theorem Fits.visible (fits : Fits form text) (marks : ∀ mark ∈ form, Text.isBlank mark = false) :
    ∀ c ∈ text, Text.isBlank c = false := by
  induction fits with
  | nil => simp
  | @cons mark c form text letter _ ih =>
    obtain ⟨first, later⟩ := List.forall_mem_cons.mp marks
    refine List.forall_mem_cons.mpr ⟨?_, ih later⟩
    split at letter
    · exact Text.isBlank_of_isDigit letter
    · rwa [letter]

theorem Fits.exists_characters (fits : Fits bareForm text) :
    ∃ y₁ y₂ y₃ y₄ m₁ m₂ d₁ d₂ h₁ h₂ n₁ n₂ s₁ s₂, Text.isDigit y₁ = true ∧
      text = [y₁, y₂, y₃, y₄, '-', m₁, m₂, '-', d₁, d₂, 'T', h₁, h₂, ':', n₁, n₂, ':', s₁, s₂] := by
  have length : text.length = bareForm.length := (List.Forall₂.length_eq fits).symm
  match text, length with
  | [y₁, y₂, y₃, y₄, _, m₁, m₂, _, d₁, d₂, _, h₁, h₂, _, n₁, n₂, _, s₁, s₂], _ =>
    simp only [Fits, bareForm, List.forall₂_cons, ↓reduceIte, Char.reduceEq] at fits
    simp [fits]

/-! No text has both forms: the internet form begins with a digit and ends with a zone, and the bare form begins with
a sign or ends with the seconds. -/

theorem internet?_of_not_isDigit (other : Text.isDigit c = false) (text : List Char) :
    internet? (c :: text) = none := by
  unfold internet?
  split
  · rename_i letters
    cases letters
    simp [date?, Text.numeral?, other]
  · rfl

theorem internet?_unzoned (y₁ y₂ y₃ y₄ m₁ m₂ d₁ d₂ h₁ h₂ n₁ n₂ s₁ s₂ : Char) :
    internet? [y₁, y₂, y₃, y₄, '-', m₁, m₂, '-', d₁, d₂, 'T', h₁, h₂, ':', n₁, n₂, ':', s₁, s₂] = none := by
  simp [internet?, internetOf?, offset?]

theorem exists_of_bareOf? {negative : Bool} (read : bareOf? negative text = some instant) :
    ∃ y₁ y₂ y₃ y₄ m₁ m₂ d₁ d₂ h₁ h₂ n₁ n₂ s₁ s₂,
      text = [y₁, y₂, y₃, y₄, '-', m₁, m₂, '-', d₁, d₂, 'T', h₁, h₂, ':', n₁, n₂, ':', s₁, s₂] := by
  unfold bareOf? at read
  split at read
  · exact ⟨_, _, _, _, _, _, _, _, _, _, _, _, _, _, rfl⟩
  · cases read

theorem internet?_eq_none_of_bare? (read : bare? text = some instant) : internet? text = none := by
  unfold bare? at read
  split at read
  · exact internet?_of_not_isDigit (by decide) _
  · exact internet?_of_not_isDigit (by decide) _
  · obtain ⟨_, _, _, _, _, _, _, _, _, _, _, _, _, _, rfl⟩ := exists_of_bareOf? read
    exact internet?_unzoned _ _ _ _ _ _ _ _ _ _ _ _ _ _

theorem internet?_or_bare? (text : List Char) : internet? text = none ∨ bare? text = none := by
  cases read : bare? text with
  | none => exact .inr rfl
  | some instant => exact .inl (internet?_eq_none_of_bare? read)

theorem parse?_eq_orElse (text : String) : parse? text =
    (bare? (Text.trimmed text.toList) <|> internet? (Text.trimmed text.toList)) := by
  rw [parse?]
  rcases internet?_or_bare? (Text.trimmed text.toList) with none | none
  · rw [none]
    cases bare? (Text.trimmed text.toList) <;> rfl
  · rw [none]
    cases internet? (Text.trimmed text.toList) <;> rfl

theorem bare?_of_isDigit (digit : Text.isDigit c = true) (text : List Char) :
    bare? (c :: text) = bareOf? false (c :: text) := by
  unfold bare?
  split
  · rename_i letters
    cases letters
    cases digit
  · rename_i letters
    cases letters
    cases digit
  · rfl

/-! Blanks. -/

theorem parse?_surrounded {text front back : String} (before : Text.isBlankText front = true)
    (after : Text.isBlankText back = true) : parse? (front ++ text ++ back) = parse? text := by
  rw [parse?, String.toList_append, String.toList_append,
    Text.trimmed_surrounded (List.all_eq_true.mp before) (List.all_eq_true.mp after), parse?]

/-! Zones and fractions. -/

theorem parts_of_bareOf? {y₁ y₂ y₃ y₄ m₁ m₂ d₁ d₂ h₁ h₂ n₁ n₂ s₁ s₂ : Char}
    (read : bareOf? false [y₁, y₂, y₃, y₄, '-', m₁, m₂, '-', d₁, d₂, 'T', h₁, h₂, ':', n₁, n₂, ':', s₁, s₂] =
      some instant) :
    ∃ date clock, date? [y₁, y₂, y₃, y₄] m₁ m₂ d₁ d₂ = some date ∧ twoDigits? h₁ h₂ = some clock.hour ∧
      twoDigits? n₁ n₂ = some clock.minute ∧ twoDigits? s₁ s₂ = some clock.second ∧ clock.nano = 0 ∧
      instant = .utc date clock := by
  simp only [bareOf?, Option.bind_eq_bind, Option.bind_eq_some_iff, Bool.false_eq_true, if_false] at read
  obtain ⟨year, years, month, months, day, days, date, dated, hour, hours, minute, minutes, second, seconds, clock,
    clocked, same⟩ := read
  obtain ⟨rfl, rfl, rfl, whole⟩ := Clock.of?_eq_some_iff.mp clocked
  refine ⟨date, clock, ?_, hours, minutes, seconds, whole, (Option.some.inj same).symm⟩
  simp [date?, years, months, days, dated]

/-- The instant that a bare text stands for, with the fraction and the zone that stand behind it. -/
theorem exists_parts {text : String} (fits : Fits bareForm text.toList) (read : parse? text = some instant) :
    ∃ date clock, clock.nano = 0 ∧ instant = .utc date clock ∧
      ∀ {nanos offset fraction zone} (divided : Fraction nanos fraction) (zoned : Zone offset zone),
        parse? (text ++ fraction ++ zone) =
          some ⟨date, { clock with nano := nanos, nano_lt := divided.lt }, offset, zoned.bounds⟩ := by
  have visible := fits.visible (Text.visible_of_all (by decide))
  obtain ⟨y₁, y₂, y₃, y₄, m₁, m₂, d₁, d₂, h₁, h₂, n₁, n₂, s₁, s₂, digit, letters⟩ := fits.exists_characters
  rw [parse?, Text.trimmed_of_visible visible, letters, internet?_unzoned, bare?_of_isDigit digit] at read
  obtain ⟨date, clock, dated, hour, minute, second, whole, same⟩ := parts_of_bareOf? read
  refine ⟨date, clock, whole, same, ?_⟩
  intro nanos offset fraction zone divided zoned
  have spelled : ∀ c ∈ (text ++ fraction ++ zone).toList, Text.isBlank c = false := by
    rw [String.toList_append, String.toList_append, List.forall_mem_append, List.forall_mem_append]
    exact ⟨⟨visible, divided.visible⟩, zoned.visible⟩
  have zoned_read := internet?_spelled
    ⟨date, { clock with nano := nanos, nano_lt := divided.lt }, offset, zoned.bounds⟩ divided zoned dated hour minute
    second
  rw [parse?, Text.trimmed_of_visible spelled, String.toList_append, String.toList_append, letters,
    List.append_assoc]
  simp only [List.cons_append, List.nil_append, zoned_read]
  rfl

/-- A bare text with a `Z` behind it is the same instant, and with a fraction and a zone it is moved by as much as
they say, and has the offset of the zone. Blanks around a text change nothing, and no text has both forms, whichever
is tried first. -/
theorem parse?_alike :
    (∀ text instant, Fits bareForm text.toList → parse? text = some instant →
      parse? (text ++ "Z") = some instant ∧
      ∀ nanos offset fraction zone, Fraction nanos fraction → Zone offset zone →
        ∃ other, parse? (text ++ fraction ++ zone) = some other ∧ other.offset = offset ∧
          other.unixNanos = instant.unixNanos + nanos - offset * 60 * Instant.nanosPerSecond) ∧
    (∀ text front back, Text.isBlankText front = true → Text.isBlankText back = true →
      parse? (front ++ text ++ back) = parse? text) ∧
    (∀ text, internet? text = none ∨ bare? text = none) ∧
    ∀ text, parse? text = (bare? (Text.trimmed text.toList) <|> internet? (Text.trimmed text.toList)) := by
  refine ⟨fun text instant fits read => ?_, fun _ _ _ before after => parse?_surrounded before after,
    internet?_or_bare?, parse?_eq_orElse⟩
  obtain ⟨date, clock, whole, rfl, spelled⟩ := exists_parts fits read
  constructor
  · have zulu := spelled .none .utc
    rw [String.append_empty] at zulu
    rw [zulu]
    cases clock
    cases whole
    rfl
  · intro nanos offset fraction zone divided zoned
    refine ⟨_, spelled divided zoned, rfl, ?_⟩
    simp only [Instant.unixNanos, Instant.unixSeconds, Instant.utc, Clock.secondOfDay, Instant.secondsPerDay,
      Instant.nanosPerSecond, whole]
    omega

def lastEvening : Instant := (parse? "2023-12-31T23:30:15").get (by decide)

theorem parse?_alike_lastEvening :
    Fits bareForm "2023-12-31T23:30:15".toList ∧ parse? "2023-12-31T23:30:15" = some lastEvening ∧
    Fraction 123456789 ".1234567899" ∧ Zone (-345) "-05:45" ∧ Text.isBlankText "\r\n" = true ∧
    parse? ("2023-12-31T23:30:15" ++ "Z") = some lastEvening ∧
    (∃ other, parse? ("2023-12-31T23:30:15" ++ ".1234567899" ++ "-05:45") = some other ∧ other.offset = -345 ∧
      other.unixNanos = lastEvening.unixNanos + (123456789 : Nat) - -345 * 60 * Instant.nanosPerSecond) ∧
    parse? ("\r\n" ++ "2023-12-31T23:30:15" ++ "\r\n") = some lastEvening := by
  have fits : Fits bareForm "2023-12-31T23:30:15".toList := by
    rw [Fits]
    decide
  have read : parse? "2023-12-31T23:30:15" = some lastEvening := (Option.some_get _).symm
  have divided : Fraction 123456789 ".1234567899" :=
    @Fraction.point ['1', '2', '3', '4', '5', '6', '7', '8', '9', '9'] (by decide) (List.all_eq_true.mp (by decide))
  have zoned : Zone (-345) "-05:45" := @Zone.west 5 45 (by decide) (by decide)
  have blank : Text.isBlankText "\r\n" = true := by decide
  obtain ⟨moved, surrounded, -⟩ := parse?_alike
  obtain ⟨zulu, behind⟩ := moved _ _ fits read
  exact ⟨fits, read, divided, zoned, blank, zulu, behind _ _ _ _ divided zoned,
    (surrounded _ _ _ blank blank).trans read⟩

end Timestamp
end Retention
