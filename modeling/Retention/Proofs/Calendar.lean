import Retention.Time.Calendar

/-!
The calendar and its day numbers. Every day number has exactly one civil date, and the dates with a year
of at most four digits have exactly the numbers from the first to the last of them.
-/
namespace Retention
namespace Calendar

/-- A month of the year and a day of that month. -/
def IsCivil (year : Int) (month day : Nat) : Prop :=
  (1 ≤ month ∧ month ≤ 12) ∧ 1 ≤ day ∧ day ≤ daysInMonth year month

section Years

variable {year other number : Int}

theorem isLeapYear_iff :
    isLeapYear year = true ↔ year % 4 = 0 ∧ (year % 100 ≠ 0 ∨ year % 400 = 0) := by
  simp [isLeapYear]

theorem yearStart_succ (year : Int) :
    yearStart (year + 1) = yearStart year + if isLeapYear year then 366 else 365 := by
  unfold yearStart
  split
  · rename_i leap
    rw [isLeapYear_iff] at leap
    omega
  · rename_i common
    rw [isLeapYear_iff] at common
    omega

theorem yearStart_lt (order : year < other) : yearStart year < yearStart other := by
  unfold yearStart
  omega

theorem yearStart_le (order : year ≤ other) : yearStart year ≤ yearStart other := by
  rcases Int.lt_or_eq_of_le order with before | same
  · exact Int.le_of_lt (yearStart_lt before)
  · exact Int.le_of_eq (congrArg yearStart same)

/-- The years that hold a day have no other year between them. -/
theorem le_of_yearStart (start : yearStart year ≤ number) (stop : number < yearStart (other + 1)) :
    year ≤ other := by
  apply Int.not_lt.mp
  intro after
  have later : yearStart (other + 1) ≤ yearStart year := yearStart_le after
  omega

theorem yearStart_yearOf (number : Int) :
    yearStart (yearOf number) ≤ number ∧ number < yearStart (yearOf number + 1) := by
  -- 400 years have 146097 days; leap days move the start of a year by less than two days from the mean.
  unfold yearOf
  simp only
  split
  · rename_i early
    unfold yearStart at *
    omega
  · split
    · rename_i late
      unfold yearStart at *
      omega
    · rename_i start stop
      exact ⟨Int.not_lt.mp start, Int.not_le.mp stop⟩

theorem yearOf_eq (start : yearStart year ≤ number) (stop : number < yearStart (year + 1)) :
    yearOf number = year := by
  obtain ⟨found, ends⟩ := yearStart_yearOf number
  exact Int.le_antisymm (le_of_yearStart found stop) (le_of_yearStart start ends)

end Years

section Months

variable {year : Int} {first month left : Nat}

theorem monthStart_eq (year : Int) (month : Nat) : monthStart year (month + 1) =
    ((List.range' 1 month).map (daysInMonth year)).foldr (· + ·) 0 := by
  rw [monthStart, List.tail_range, Nat.add_sub_cancel]

theorem monthStart_one (year : Int) : monthStart year 1 = 0 := rfl

theorem monthStart_succ (year : Int) (positive : 1 ≤ month) :
    monthStart year (month + 1) = monthStart year month + daysInMonth year month := by
  obtain ⟨before, rfl⟩ := Nat.exists_eq_add_of_le' positive
  rw [monthStart_eq, monthStart_eq, List.range'_1_concat, ← List.sum_eq_foldr, ← List.sum_eq_foldr]
  simp [Nat.add_comm 1]

theorem monthStart_le (positive : 1 ≤ first) (order : first ≤ month) :
    monthStart year first ≤ monthStart year month := by
  induction order with
  | refl => exact Nat.le_refl _
  | step order ih =>
    rw [monthStart_succ year (Nat.le_trans positive order)]
    exact Nat.le_add_right_of_le ih

theorem monthStart_thirteen (year : Int) :
    monthStart year 13 = if isLeapYear year then 366 else 365 := by
  rw [monthStart_eq]
  cases leap : isLeapYear year <;> simp [List.range', daysInMonth, leap]

theorem exists_month {months : Nat} (inside : left < monthStart year (months + 1)) :
    ∃ month, (1 ≤ month ∧ month ≤ months) ∧
      monthStart year month ≤ left ∧ left < monthStart year (month + 1) := by
  induction months with
  | zero => exact absurd inside (Nat.not_lt_zero left)
  | succ months ih =>
    by_cases earlier : left < monthStart year (months + 1)
    · obtain ⟨month, bounds, found⟩ := ih earlier
      exact ⟨month, ⟨bounds.1, Nat.le_succ_of_le bounds.2⟩, found⟩
    · exact ⟨months + 1, ⟨Nat.succ_pos months, Nat.le_refl _⟩, Nat.not_lt.mp earlier, inside⟩

/-- The walk over the months ends in the month that holds the day. -/
theorem monthAndDay_eq {months : Nat} (positive : 1 ≤ first) (reached : first ≤ month)
    (inside : month < first + months) (start : monthStart year month ≤ monthStart year first + left)
    (stop : monthStart year first + left < monthStart year (month + 1)) :
    monthAndDay year left (List.range' first months) =
      (month, monthStart year first + left - monthStart year month + 1) := by
  induction months generalizing first left with
  | zero => omega
  | succ months ih =>
    have next := monthStart_succ year positive
    rcases Nat.eq_or_lt_of_le reached with same | after
    · subst same
      rw [Nat.add_sub_cancel_left]
      cases months with
      | zero => rfl
      | succ months =>
        have here : left < daysInMonth year first := by omega
        simp [List.range', monthAndDay, here]
    · have skipped : monthStart year (first + 1) ≤ monthStart year month :=
        monthStart_le (Nat.succ_pos first) after
      have beyond : ¬ left < daysInMonth year first := by omega
      cases months with
      | zero => omega
      | succ months =>
        have walked : monthStart year (first + 1) + (left - daysInMonth year first) =
            monthStart year first + left := by
          omega
        rw [← walked] at start stop ⊢
        rw [← ih (Nat.succ_pos first) after (by omega) start stop]
        simp [List.range', monthAndDay, beyond]

end Months

section Days

variable {year number : Int} {month day : Nat}

theorem dayNumber_bounds (valid : IsCivil year month day) :
    yearStart year ≤ dayNumber year month day ∧ dayNumber year month day < yearStart (year + 1) := by
  obtain ⟨⟨positive, atMost⟩, days⟩ := valid
  have next := monthStart_succ year positive
  have bound : monthStart year (month + 1) ≤ monthStart year 13 :=
    monthStart_le (Nat.succ_pos month) (Nat.succ_le_succ atMost)
  rw [monthStart_thirteen] at bound
  rw [yearStart_succ, dayNumber]
  split at bound
  · rename_i leap
    rw [if_pos leap]
    omega
  · rename_i common
    rw [if_neg common]
    omega

theorem civil_dayNumber (valid : IsCivil year month day) :
    civil (dayNumber year month day) = (year, month, day) := by
  obtain ⟨start, stop⟩ := dayNumber_bounds valid
  obtain ⟨⟨positive, atMost⟩, days⟩ := valid
  have left : (dayNumber year month day - yearStart year).toNat =
      monthStart year 1 + (monthStart year month + (day - 1)) := by
    rw [monthStart_one, dayNumber]
    omega
  have next := monthStart_succ year positive
  have walk : monthAndDay year (monthStart year month + (day - 1)) (List.range' 1 12) =
      (month, monthStart year 1 + (monthStart year month + (day - 1)) - monthStart year month + 1) := by
    apply monthAndDay_eq (Nat.le_refl 1) positive (Nat.lt_succ_of_le atMost)
    · rw [monthStart_one]
      omega
    · rw [monthStart_one]
      omega
  simp only [monthStart_one, Nat.zero_add, Nat.add_sub_cancel_left, Nat.sub_add_cancel days.1]
    at left walk
  unfold civil
  simp only [yearOf_eq start stop, left, List.tail_range, walk]

theorem exists_civil (number : Int) :
    ∃ year month day, IsCivil year month day ∧ dayNumber year month day = number := by
  obtain ⟨start, stop⟩ := yearStart_yearOf number
  have inside : (number - yearStart (yearOf number)).toNat < monthStart (yearOf number) (12 + 1) := by
    rw [yearStart_succ] at stop
    rw [monthStart_thirteen]
    split at stop
    · rename_i leap
      rw [if_pos leap]
      omega
    · rename_i common
      rw [if_neg common]
      omega
  obtain ⟨month, bounds, before, after⟩ := exists_month inside
  rw [monthStart_succ _ bounds.1] at after
  refine ⟨yearOf number, month,
    (number - yearStart (yearOf number)).toNat - monthStart (yearOf number) month + 1, ?_, ?_⟩
  · exact ⟨bounds, by omega, by omega⟩
  · unfold dayNumber
    omega

/-- A day number and its date determine each other. -/
theorem civil_eq_iff : civil number = (year, month, day) ↔
    IsCivil year month day ∧ dayNumber year month day = number := by
  constructor
  · intro found
    obtain ⟨_, _, _, valid, rfl⟩ := exists_civil number
    rw [civil_dayNumber valid] at found
    cases found
    exact ⟨valid, rfl⟩
  · rintro ⟨valid, rfl⟩
    exact civil_dayNumber valid

end Days

end Calendar

namespace Date

variable {date : Date} {ordinal : Int}

theorem of?_self (date : Date) : of? date.year date.month date.day = some date := by
  simp [of?, date.year_bounds, date.month_bounds, date.day_bounds]

theorem of?_eq_some_iff {year : Int} {month day : Nat} : of? year month day = some date ↔
    date.year = year ∧ date.month = month ∧ date.day = day := by
  constructor
  · intro found
    unfold of? at found
    split at found
    · split at found
      · split at found
        · cases found
          exact ⟨rfl, rfl, rfl⟩
        · cases found
      · cases found
    · cases found
  · rintro ⟨rfl, rfl, rfl⟩
    exact of?_self date

theorem ofNumber?_eq_some_iff : ofNumber? ordinal = some date ↔ date.number = ordinal := by
  have valid : Calendar.IsCivil date.year date.month date.day := ⟨date.month_bounds, date.day_bounds⟩
  unfold ofNumber?
  rw [of?_eq_some_iff]
  constructor
  · rintro ⟨year, month, day⟩
    have found : Calendar.civil ordinal = (date.year, date.month, date.day) := by
      rw [year, month, day]
    exact (Calendar.civil_eq_iff.mp found).2
  · intro same
    rw [← same, number, Calendar.civil_dayNumber valid]
    exact ⟨rfl, rfl, rfl⟩

theorem first_eq : first = Calendar.yearStart (-9999) := by decide

theorem last_eq : last = Calendar.yearStart (9999 + 1) - 1 := by decide

theorem isSome_of?_iff {year : Int} {month day : Nat} (valid : Calendar.IsCivil year month day) :
    (of? year month day).isSome = true ↔ -9999 ≤ year ∧ year ≤ 9999 := by
  unfold of?
  split
  · rename_i years
    simp [years, valid.1, valid.2]
  · rename_i beyond
    simp [beyond]

/-- A date is found for the numbers from the first to the last of them, and for no other. -/
theorem isSome_ofNumber?_iff : (ofNumber? ordinal).isSome = true ↔ first ≤ ordinal ∧ ordinal ≤ last := by
  obtain ⟨year, month, day, valid, rfl⟩ := Calendar.exists_civil ordinal
  obtain ⟨start, stop⟩ := Calendar.dayNumber_bounds valid
  have found : ofNumber? (Calendar.dayNumber year month day) = of? year month day := by
    rw [ofNumber?, Calendar.civil_dayNumber valid]
  rw [found, isSome_of?_iff valid, first_eq, last_eq]
  constructor
  · intro years
    have from_first := Calendar.yearStart_le years.1
    have to_last := Calendar.yearStart_le (Int.add_le_add_right years.2 1)
    omega
  · intro bounds
    exact ⟨Calendar.le_of_yearStart bounds.1 stop, Calendar.le_of_yearStart start (by omega)⟩

/-- The numbers of the dates are those for which a date is found. -/
theorem exists_number_iff :
    (∃ date : Date, date.number = ordinal) ↔ first ≤ ordinal ∧ ordinal ≤ last := by
  rw [← isSome_ofNumber?_iff, Option.isSome_iff_exists]
  simp only [ofNumber?_eq_some_iff]

end Date
end Retention
