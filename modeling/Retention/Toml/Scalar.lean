import Retention.Text.Blank
import Retention.Time.Calendar
import Retention.Toml.Basic

/-!
Values that are written as one word: truth values, integers, floats, dates and times.
-/
namespace Retention.Toml.Scalar

def isWordChar (c : Char) : Bool := c.isAlphanum || ['+', '-', '_', '.', ':'].contains c

/-- Digits, with single underscores between them. -/
def grouped? (isDigit : Char → Bool) (word : List Char) : Option (List Char) :=
  let groups := Text.splitAt '_' word
  if groups.all fun group => !group.isEmpty && group.all isDigit then some groups.flatten else none

def decimal? (word : List Char) : Option (List Char) := grouped? Text.isDigit word

/-- A decimal integer without zeros in front. -/
def whole? (word : List Char) : Option (List Char) :=
  if word.head? = some '0' && word.length != 1 then none else decimal? word

def unsigned : List Char → List Char
  | '+' :: word => word
  | '-' :: word => word
  | word => word

def isNegative (word : List Char) : Bool := word.head? = some '-'

def valueIn (radix : Nat) (digits : List Char) : Nat :=
  digits.foldl (fun value c => radix * value + (Text.hexDigit? c).getD 0) 0

def isDigitIn (radix : Nat) (c : Char) : Bool := (Text.hexDigit? c).any (· < radix)

/-- Other bases than ten have no sign. -/
def magnitude? (word : List Char) : Option Nat :=
  match word with
  | '0' :: 'x' :: digits => (grouped? (isDigitIn 16) digits).map (valueIn 16)
  | '0' :: 'o' :: digits => (grouped? (isDigitIn 8) digits).map (valueIn 8)
  | '0' :: 'b' :: digits => (grouped? (isDigitIn 2) digits).map (valueIn 2)
  | _ => (whole? (unsigned word)).map Text.digitsValue

/-- An integer of 64 bits. -/
def integer? (word : List Char) : Option Int := do
  let magnitude ← magnitude? word
  let value : Int := if isNegative word then -(magnitude : Int) else magnitude
  if Int64.minValue.toInt ≤ value ∧ value ≤ Int64.maxValue.toInt then some value else none

def isDigitOrGroup (c : Char) : Bool := Text.isDigit c || c = '_'

def exponent? (word : List Char) : Option Int :=
  match word with
  | e :: power =>
    if e = 'e' || e = 'E' then
      (decimal? (unsigned power)).map fun digits =>
        if isNegative power then -(Text.digitsValue digits : Int) else Text.digitsValue digits
    else none
  | [] => none

/-- The digits of a float without its sign, and the power of ten by which their value is to be taken. -/
def parts? (word : List Char) : Option (List Char × Int) := do
  let whole ← whole? (word.takeWhile isDigitOrGroup)
  match word.dropWhile isDigitOrGroup with
  | '.' :: rest =>
    let fraction ← decimal? (rest.takeWhile isDigitOrGroup)
    let exponent ← match rest.dropWhile isDigitOrGroup with
      | [] => some 0
      | rest => exponent? rest
    some (whole ++ fraction, exponent - fraction.length)
  | rest => some (whole, ← exponent? rest)

/-- The least value that is nearer to `2 ^ 1024` than to any finite double, or as near. -/
def overflow : Nat := Nat.pow 2 1024 - Nat.pow 2 970

/-- Whether digits times a power of ten reach the overflow. A value with more than 310 places does so
in any case, and one with fewer than 300 does not. -/
def overflows (digits : List Char) (exponent : Int) : Bool :=
  let digits := digits.dropWhile (· = '0')
  let places := (digits.length : Int) + exponent
  if digits.isEmpty || places < 300 then false
  else if 310 < places then true
  else
    let value := Text.digitsValue digits
    if 0 ≤ exponent then overflow ≤ value * Nat.pow 10 exponent.toNat
    else overflow * Nat.pow 10 (-exponent).toNat ≤ value

/-- A positive float may not overflow. -/
def isFloat (word : List Char) : Bool :=
  let magnitude := unsigned word
  magnitude = "inf".toList || magnitude = "nan".toList ||
    match parts? magnitude with
    | some (digits, exponent) => isNegative word || !overflows digits exponent
    | none => false

/-- Digits of a fixed number with a value between the bounds. -/
def isPart (low high : Nat) (digits : List Char) : Bool :=
  digits.all Text.isDigit && low ≤ Text.digitsValue digits && Text.digitsValue digits ≤ high

def isDate : List Char → Bool
  | [y₁, y₂, y₃, y₄, '-', m₁, m₂, '-', d₁, d₂] =>
    let year := [y₁, y₂, y₃, y₄]
    let month := [m₁, m₂]
    isPart 0 9999 year && isPart 1 12 month &&
      isPart 1 (Calendar.daysInMonth (Text.digitsValue year) (Text.digitsValue month)) [d₁, d₂]
  | _ => false

def isFraction : List Char → Bool
  | [] => true
  | '.' :: digits => !digits.isEmpty && digits.all Text.isDigit
  | _ => false

def isClock : List Char → Bool
  | h₁ :: h₂ :: ':' :: m₁ :: m₂ :: ':' :: s₁ :: s₂ :: rest =>
    isPart 0 23 [h₁, h₂] && isPart 0 59 [m₁, m₂] && isPart 0 60 [s₁, s₂] && isFraction rest
  | _ => false

def isClockChar (c : Char) : Bool := Text.isDigit c || c = ':' || c = '.'

def isOffset : List Char → Bool
  | [] => true
  | [c] => c = 'Z' || c = 'z'
  | [sign, h₁, h₂, ':', m₁, m₂] =>
    (sign = '+' || sign = '-') && isPart 0 23 [h₁, h₂] && isPart 0 59 [m₁, m₂]
  | _ => false

/-- A time of day that follows a date may have an offset from UTC. -/
def isZonedClock (word : List Char) : Bool :=
  isClock (word.takeWhile isClockChar) && isOffset (word.dropWhile isClockChar)

def isMoment (word : List Char) : Bool :=
  isClock word || isDate word ||
    (isDate (word.take 10) &&
      match word.drop 10 with
      | c :: clock => (c = 'T' || c = 't') && isZonedClock clock
      | [] => false)

def ofWord? (word : List Char) : Option Toml :=
  if word = "true".toList then some (.bool true)
  else if word = "false".toList then some (.bool false)
  else if isMoment word then some (.moment (.ofList word))
  else match integer? word with
    | some value => some (.int value)
    | none => if isFloat word then some (.float (.ofList word)) else none

/-- The word at the start of a text, and what follows it. A date and a time of day may have one space
between them. -/
def any? (text : List Char) : Option (Toml × List Char) :=
  let word := text.takeWhile isWordChar
  let rest := text.dropWhile isWordChar
  if isDate word then
    match rest with
    | ' ' :: after =>
      let clock := after.takeWhile isWordChar
      if clock.isEmpty then some (.moment (.ofList word), rest)
      else if isZonedClock clock then
        some (.moment (.ofList (word ++ ' ' :: clock)), after.dropWhile isWordChar)
      else none
    | _ => some (.moment (.ofList word), rest)
  else (ofWord? word).map (·, rest)

end Retention.Toml.Scalar
