/-!
Unsigned numerals: how they are read, within a bound or not, and how they are written with a least
number of digits.
-/
namespace Retention.Text

def isDigit (c : Char) : Bool := '0' ≤ c && c ≤ '9'

def digitValue (c : Char) : Nat := c.toNat - '0'.toNat

/-- The value of decimal digits, most significant first. -/
def digitsValue (digits : List Char) : Nat :=
  digits.foldl (fun value c => 10 * value + digitValue c) 0

/-- One or more decimal digits, and nothing else. -/
def numeral? (text : List Char) : Option Nat :=
  if text.isEmpty || !text.all isDigit then none else some (digitsValue text)

/-- Why a text is no number below `2 ^ 64`. -/
inductive WordError
  | empty
  | notDigit
  | tooLarge
deriving DecidableEq

def WordError.message : WordError → String
  | .empty => "cannot parse integer from empty string"
  | .notDigit => "invalid digit found in string"
  | .tooLarge => "number too large to fit in target type"

/-- Goes on by one digit; the first fault of the text is the one that counts. -/
def addDigit (value : UInt64) (c : Char) : Except WordError UInt64 :=
  if !isDigit c then .error .notDigit
  else
    let next := 10 * value.toNat + digitValue c
    if bound : next < UInt64.size then .ok (.ofNatLT next bound) else .error .tooLarge

def readDigits : List Char → Except WordError UInt64
  | [] => .error .notDigit
  | digits => digits.foldlM addDigit 0

/-- A number below `2 ^ 64`, with an optional plus sign. -/
def readWord (text : String) : Except WordError UInt64 :=
  match text.toList with
  | [] => .error .empty
  | '+' :: digits => readDigits digits
  | digits => readDigits digits

def word64? (text : String) : Option UInt64 := (readWord text).toOption

/-- Decimal digits, with zeros in front up to the given width. -/
def padded (width n : Nat) : String :=
  let digits := toString n
  "".pushn '0' (width - digits.length) ++ digits

def hexDigit? (c : Char) : Option Nat :=
  if '0' ≤ c && c ≤ '9' then some (c.toNat - '0'.toNat)
  else if 'a' ≤ c && c ≤ 'f' then some (c.toNat - 'a'.toNat + 10)
  else if 'A' ≤ c && c ≤ 'F' then some (c.toNat - 'A'.toNat + 10)
  else none

/-- The value of hexadecimal digits, most significant first. -/
def hexValue? (digits : List Char) : Option Nat :=
  digits.foldlM (fun value c => (hexDigit? c).map (16 * value + ·)) 0

/-- Hexadecimal digits in the given alphabet, with zeros in front up to the given width. -/
def hexPadded (upper : Bool) (width n : Nat) : String :=
  let digits := (Nat.toDigits 16 n).map fun c => if upper then c.toUpper else c
  "".pushn '0' (width - digits.length) ++ .ofList digits

end Retention.Text
