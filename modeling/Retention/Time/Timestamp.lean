import Retention.Text.Blank
import Retention.Text.Numeral
import Retention.Time.Instant

/-!
Instants as text. The internet form has a date, any one ASCII character, a time of day with or without
a fraction, and a zone; the bare form has no zone and means UTC, and its year may carry a sign. A
provider's time stamp is tried as the first and then as the second.
-/
namespace Retention
namespace Timestamp

def twoDigits? (tens ones : Char) : Option Nat := Text.numeral? [tens, ones]

def date? (year : List Char) (m₁ m₂ d₁ d₂ : Char) : Option Date := do
  let year ← Text.numeral? year
  let month ← twoDigits? m₁ m₂
  let day ← twoDigits? d₁ d₂
  Date.of? year month day

/-- Nanoseconds of the digits after a decimal point. Digits after the ninth are dropped. -/
def fraction (digits : List Char) : Nat :=
  Text.digitsValue (digits.take 9) * Nat.pow 10 (9 - digits.length)

/-- A sign, hours below 24 and minutes below 60. -/
def offset? : List Char → Option { offset : Int // -1440 < offset ∧ offset < 1440 }
  | [zone] => if zone = 'Z' ∨ zone = 'z' then some ⟨0, Instant.zero_offset_bounds⟩ else none
  | [sign, h₁, h₂, ':', m₁, m₂] => do
    let hours ← twoDigits? h₁ h₂
    let minutes ← twoDigits? m₁ m₂
    if bounds : hours < 24 ∧ minutes < 60 then
      if sign = '+' then some ⟨(hours * 60 + minutes : Nat), by omega⟩
      else if sign = '-' then some ⟨-((hours * 60 + minutes : Nat) : Int), by omega⟩
      else none
    else none
  | _ => none

/-- The last second of a month in UTC. -/
def endsMonth (instant : Instant) : Bool :=
  instant.unixSeconds % Instant.secondsPerDay = Instant.secondsPerDay - 1 &&
    (Calendar.civil (instant.utcDay + 1)).2.2 = 1

/-- A leap second is read as the last nanosecond before it, and may stand only where one can. -/
def internetOf? (date : Date) (hour minute second nano : Nat) (zone : List Char) : Option Instant := do
  let ⟨offset, bounds⟩ ← offset? zone
  if second = 60 then
    let clock ← Clock.of? hour minute 59 999999999
    let instant : Instant := ⟨date, clock, offset, bounds⟩
    if endsMonth instant then some instant else none
  else
    let clock ← Clock.of? hour minute second nano
    some ⟨date, clock, offset, bounds⟩

def internet? : List Char → Option Instant
  | y₁ :: y₂ :: y₃ :: y₄ :: '-' :: m₁ :: m₂ :: '-' :: d₁ :: d₂ :: between ::
      h₁ :: h₂ :: ':' :: n₁ :: n₂ :: ':' :: s₁ :: s₂ :: rest => do
    if between.toNat < 128 then
      let date ← date? [y₁, y₂, y₃, y₄] m₁ m₂ d₁ d₂
      let hour ← twoDigits? h₁ h₂
      let minute ← twoDigits? n₁ n₂
      let second ← twoDigits? s₁ s₂
      match rest with
      | '.' :: rest =>
        let digits := rest.takeWhile Text.isDigit
        if digits.isEmpty then none
        else internetOf? date hour minute second (fraction digits) (rest.dropWhile Text.isDigit)
      | zone => internetOf? date hour minute second 0 zone
    else none
  | _ => none

def bareOf? (negative : Bool) : List Char → Option Instant
  | [y₁, y₂, y₃, y₄, '-', m₁, m₂, '-', d₁, d₂, 'T', h₁, h₂, ':', n₁, n₂, ':', s₁, s₂] => do
    let year ← Text.numeral? [y₁, y₂, y₃, y₄]
    let month ← twoDigits? m₁ m₂
    let day ← twoDigits? d₁ d₂
    let date ← Date.of? (if negative then -(year : Int) else year) month day
    let hour ← twoDigits? h₁ h₂
    let minute ← twoDigits? n₁ n₂
    let second ← twoDigits? s₁ s₂
    let clock ← Clock.of? hour minute second 0
    some (.utc date clock)
  | _ => none

def bare? : List Char → Option Instant
  | '-' :: text => bareOf? true text
  | '+' :: text => bareOf? false text
  | text => bareOf? false text

/-- Blanks around a provider's time stamp do not count. -/
def parse? (text : String) : Option Instant :=
  let text := Text.trimmed text.toList
  internet? text <|> bare? text

def offsetText (offset : Int) : String :=
  if offset = 0 then "Z"
  else
    let minutes := offset.natAbs
    (if offset < 0 then "-" else "+") ++ Text.padded 2 (minutes / 60) ++ ":" ++
      Text.padded 2 (minutes % 60)

/-- Nine digits without the zeros at their end, after a point; nothing for a whole second. -/
def fractionText (nano : Nat) : String :=
  if nano = 0 then ""
  else
    let digits := (Text.padded 9 nano).toList
    "." ++ .ofList (digits.reverse.dropWhile (· = '0')).reverse

def clockText (clock : Clock) : String :=
  Text.padded 2 clock.hour ++ ":" ++ Text.padded 2 clock.minute ++ ":" ++ Text.padded 2 clock.second

/-- The internet form, which has no negative years. -/
def internetText? (instant : Instant) : Option String :=
  if instant.date.year < 0 then none
  else some <|
    Text.padded 4 instant.date.year.toNat ++ "-" ++ Text.padded 2 instant.date.month ++ "-" ++
      Text.padded 2 instant.date.day ++ "T" ++ clockText instant.clock ++
      fractionText instant.clock.nano ++ offsetText instant.offset

end Timestamp
end Retention
