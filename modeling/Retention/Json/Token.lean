import Retention.Text.Numeral
import Retention.Json.Basic

/-!
The tokens of JSON text. Scanning drops blanks and decodes strings and numbers; how tokens fit
together is no matter here.
-/
namespace Retention.Json

inductive Token
  | openArray
  | closeArray
  | openObject
  | closeObject
  | colon
  | comma
  | null
  | bool (value : Bool)
  | int (value : Int)
  | decimal (spelling : String)
  /-- A string, or nothing where it has an unpaired surrogate escape. -/
  | text (value : Option String)
deriving DecidableEq, Repr

namespace Token

def isSpace (c : Char) : Bool := c = ' ' || c = '\t' || c = '\n' || c = '\r'

def punctuation? : Char → Option Token
  | '[' => some .openArray
  | ']' => some .closeArray
  | '{' => some .openObject
  | '}' => some .closeObject
  | ':' => some .colon
  | ',' => some .comma
  | _ => none

def isWordChar (c : Char) : Bool := !isSpace c && (punctuation? c).isNone && c != '"'

/-- Digits that do not start with a zero, unless that is all there is. -/
def wholeDigits (digits : List Char) : Bool :=
  !digits.isEmpty && digits.all Text.isDigit && (digits.head? != some '0' || digits.length == 1)

def someDigits (digits : List Char) : Bool := !digits.isEmpty && digits.all Text.isDigit

def unsigned : List Char → List Char
  | '-' :: rest => rest
  | '+' :: rest => rest
  | rest => rest

/-- What may follow the whole digits: a fraction, an exponent, or the one and then the other. -/
def decimalTail : List Char → Bool
  | '.' :: rest =>
    someDigits (rest.takeWhile Text.isDigit) &&
      match rest.dropWhile Text.isDigit with
      | [] => true
      | e :: power => (e = 'e' || e = 'E') && someDigits (unsigned power)
  | e :: power => (e = 'e' || e = 'E') && someDigits (unsigned power)
  | [] => false

/-- A literal or a number. A zero with a sign is no integer. -/
def word? (word : List Char) : Option Token :=
  if word = "null".toList then some .null
  else if word = "true".toList then some (.bool true)
  else if word = "false".toList then some (.bool false)
  else
    let negative := word.head? = some '-'
    let magnitude := if negative then word.tail else word
    let whole := magnitude.takeWhile Text.isDigit
    let tail := magnitude.dropWhile Text.isDigit
    if !wholeDigits whole then none
    else if tail.isEmpty then
      let value : Int := Text.digitsValue whole
      if negative then if value = 0 then some (.decimal (.ofList word)) else some (.int (-value))
      else some (.int value)
    else if decimalTail tail then some (.decimal (.ofList word))
    else none

def plainEscape? : Char → Option Char
  | '"' => some '"'
  | '\\' => some '\\'
  | '/' => some '/'
  | 'b' => some '\x08'
  | 'f' => some '\x0c'
  | 'n' => some '\n'
  | 'r' => some '\r'
  | 't' => some '\t'
  | _ => none

/-- The code units of a string up to its closing quote, and what follows the quote. Units are code
points, except that an escape of four digits gives a single 16-bit unit. -/
def quoted? (units : List Nat) : List Char → Option (List Nat × List Char)
  | [] => none
  | '"' :: rest => some (units.reverse, rest)
  | '\\' :: 'u' :: a :: b :: c :: d :: rest =>
    match Text.hexValue? [a, b, c, d] with
    | none => none
    | some unit => quoted? (unit :: units) rest
  | '\\' :: c :: rest =>
    match plainEscape? c with
    | none => none
    | some plain => quoted? (plain.toNat :: units) rest
  | c :: rest => if c.toNat < 0x20 || c = '\\' then none else quoted? (c.toNat :: units) rest

/-- Joins each pair of surrogates; a surrogate outside a pair spoils the text. -/
def characters? : List Nat → Option (List Char)
  | [] => some []
  | unit :: rest =>
    if 0xD800 ≤ unit ∧ unit ≤ 0xDBFF then
      match rest with
      | low :: rest =>
        if 0xDC00 ≤ low ∧ low ≤ 0xDFFF then
          (characters? rest).map (Char.ofNat (0x10000 + (unit - 0xD800) * 0x400 + (low - 0xDC00)) :: ·)
        else none
      | [] => none
    else if 0xDC00 ≤ unit ∧ unit ≤ 0xDFFF then none
    else (characters? rest).map (Char.ofNat unit :: ·)

theorem quoted_shorter {units result : List Nat} {text rest : List Char}
    (ok : quoted? units text = some (result, rest)) : rest.length < text.length := by
  fun_induction quoted? units text <;> simp_all only [List.length_cons, reduceCtorEq,
    Option.some.injEq, Prod.mk.injEq, forall_const] <;> omega

/-- The tokens read so far come first to last in `found`, reversed. -/
def scanFrom (found : List Token) : List Char → Option (List Token)
  | [] => some found.reverse
  | c :: rest =>
    if isSpace c then scanFrom found rest
    else match punctuation? c with
      | some token => scanFrom (token :: found) rest
      | none =>
        if c = '"' then
          match _ok : quoted? [] rest with
          | none => none
          | some (units, after) => scanFrom (.text ((characters? units).map .ofList) :: found) after
        else match word? (c :: rest.takeWhile isWordChar) with
          | none => none
          | some token => scanFrom (token :: found) (rest.dropWhile isWordChar)
termination_by text => text.length
decreasing_by
  · simp
  · simp
  · have := quoted_shorter _ok
    simp; omega
  · have := (List.dropWhile_sublist isWordChar (l := rest)).length_le
    simp; omega

def scan (text : List Char) : Option (List Token) := scanFrom [] text

end Token
end Retention.Json
