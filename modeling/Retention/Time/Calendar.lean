/-!
The proleptic Gregorian calendar. Days are numbered from 1970-01-01, and every day number has its
civil date, whatever the year; a `Date` is one whose year has at most four digits.
-/
namespace Retention

namespace Calendar

def isLeapYear (year : Int) : Bool := year % 4 = 0 && (year % 100 != 0 || year % 400 = 0)

def daysInMonth (year : Int) (month : Nat) : Nat :=
  if month = 2 then if isLeapYear year then 29 else 28
  else if month = 4 ∨ month = 6 ∨ month = 9 ∨ month = 11 then 30
  else 31

/-- Days from 1970-01-01 to the first day of the year. -/
def yearStart (year : Int) : Int :=
  365 * (year - 1) + (year - 1) / 4 - (year - 1) / 100 + (year - 1) / 400 - 719162

/-- Days from the first day of the year to the first day of the month. -/
def monthStart (year : Int) (month : Nat) : Nat :=
  ((List.range month).tail.map (daysInMonth year)).foldr (· + ·) 0

def dayNumber (year : Int) (month day : Nat) : Int :=
  yearStart year + monthStart year month + day - 1

/-- The year that holds a day. An estimate from the mean length of a year misses by at most one. -/
def yearOf (number : Int) : Int :=
  let estimate := (number + 719162) * 400 / 146097 + 1
  if number < yearStart estimate then estimate - 1
  else if yearStart (estimate + 1) ≤ number then estimate + 1
  else estimate

/-- Month and day of a year, from days left since the first of the given month. -/
def monthAndDay (year : Int) (left : Nat) : List Nat → Nat × Nat
  | [] => (12, left + 1)
  | [month] => (month, left + 1)
  | month :: later =>
    if left < daysInMonth year month then (month, left + 1)
    else monthAndDay year (left - daysInMonth year month) later

/-- Year, month and day of a day number. -/
def civil (number : Int) : Int × Nat × Nat :=
  let year := yearOf number
  (year, monthAndDay year (number - yearStart year).toNat (List.range 13).tail)

end Calendar

structure Date where
  year : Int
  month : Nat
  day : Nat
  year_bounds : -9999 ≤ year ∧ year ≤ 9999
  month_bounds : 1 ≤ month ∧ month ≤ 12
  day_bounds : 1 ≤ day ∧ day ≤ Calendar.daysInMonth year month
deriving DecidableEq, Repr

namespace Date

def of? (year : Int) (month day : Nat) : Option Date :=
  if years : -9999 ≤ year ∧ year ≤ 9999 then
    if months : 1 ≤ month ∧ month ≤ 12 then
      if days : 1 ≤ day ∧ day ≤ Calendar.daysInMonth year month then
        some ⟨year, month, day, years, months, days⟩
      else none
    else none
  else none

def number (date : Date) : Int := Calendar.dayNumber date.year date.month date.day

def ofNumber? (number : Int) : Option Date :=
  let (year, month, day) := Calendar.civil number
  of? year month day

/-- The first and the last day number with a year of at most four digits. -/
def first : Int := Calendar.dayNumber (-9999) 1 1

def last : Int := Calendar.dayNumber 9999 12 31

end Date
end Retention
