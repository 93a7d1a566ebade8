import Retention.Text.Numeral
import Retention.Toml.Layout

/-!
Quoted text. Double quotes admit escapes and single quotes do not; three quotes in a row open a text
of several lines, in which every line end counts as a line feed.
-/
namespace Retention.Toml.Quoted

def plainEscape? : Char → Option Char
  | 'b' => some '\x08'
  | 't' => some '\t'
  | 'n' => some '\n'
  | 'f' => some '\x0c'
  | 'r' => some '\r'
  | '"' => some '"'
  | '\\' => some '\\'
  | _ => none

/-- The character of a code point, which may not be a surrogate. -/
def scalar? (digits : List Char) : Option Char := do
  let code ← Text.hexValue? digits
  if code < 0xD800 ∨ (0xDFFF < code ∧ code ≤ 0x10FFFF) then some (Char.ofNat code) else none

/-- The character that is escaped after a backslash, and what follows it. -/
def escaped? : List Char → Option (Char × List Char)
  | 'u' :: rest =>
    if rest.length < 4 then none else (scalar? (rest.take 4)).map (·, rest.drop 4)
  | 'U' :: rest =>
    if rest.length < 8 then none else (scalar? (rest.take 8)).map (·, rest.drop 8)
  | c :: rest => (plainEscape? c).map (·, rest)
  | [] => none

/-- The characters up to the closing quote, last first, from `found`; and what follows the quote. -/
def lineFrom (quote : Char) : Nat → List Char → List Char → Option (List Char × List Char)
  | 0, _, _ => none
  | _, _, [] => none
  | bound + 1, found, c :: rest =>
    if c = quote then some (found, rest)
    else if c = '\\' && quote = '"' then
      match escaped? rest with
      | some (c, rest) => lineFrom quote bound (c :: found) rest
      | none => none
    else if isPlain c then lineFrom quote bound (c :: found) rest
    else none

/-- A backslash at the end of a line joins it to the next text. -/
def continuation? (text : List Char) : Option (List Char) :=
  (newline? (skipSpaces text)).map skipBlanks

def linesFrom (quote : Char) : Nat → List Char → List Char → Option (List Char × List Char)
  | 0, _, _ => none
  | _, _, [] => none
  | bound + 1, found, c :: rest =>
    if c = quote then
      let more := (rest.takeWhile (· = quote)).length
      let rest := rest.dropWhile (· = quote)
      -- Three quotes close the text, and up to two before them belong to it.
      if more < 2 then linesFrom quote bound (List.replicate (more + 1) quote ++ found) rest
      else if more ≤ 4 then some (List.replicate (more - 2) quote ++ found, rest)
      else none
    else if c = '\\' && quote = '"' then
      match continuation? rest with
      | some rest => linesFrom quote bound found rest
      | none =>
        match escaped? rest with
        | some (c, rest) => linesFrom quote bound (c :: found) rest
        | none => none
    else match newline? (c :: rest) with
      | some rest => linesFrom quote bound ('\n' :: found) rest
      | none => if isPlain c then linesFrom quote bound (c :: found) rest else none

def finished (found : Option (List Char × List Char)) : Option (String × List Char) :=
  found.map fun result => (.ofList result.1.reverse, result.2)

/-- A text on one line, after its opening quote. -/
def line? (quote : Char) (text : List Char) : Option (String × List Char) :=
  finished (lineFrom quote (text.length + 1) [] text)

/-- A text of several lines, after its opening quotes. A line end right after them does not count. -/
def lines? (quote : Char) (text : List Char) : Option (String × List Char) :=
  let text := (newline? text).getD text
  finished (linesFrom quote (text.length + 1) [] text)

def isQuote (c : Char) : Bool := c = '"' || c = '\''

/-- Any quoted text, after its first quote. -/
def any? (quote : Char) : List Char → Option (String × List Char)
  | a :: b :: rest =>
    if a = quote && b = quote then lines? quote rest else line? quote (a :: b :: rest)
  | text => line? quote text

end Retention.Toml.Quoted
