/-!
What stands between the parts of a TOML text: spaces, comments and line ends.
-/
namespace Retention.Toml

def isSpace (c : Char) : Bool := c = ' ' || c = '\t'

/-- Every character but the controls; a tab is none of those. -/
def isPlain (c : Char) : Bool := c = '\t' || (0x20 ≤ c.toNat && c != '\x7f')

def skipSpaces (text : List Char) : List Char := text.dropWhile isSpace

/-- What follows a line end. -/
def newline? : List Char → Option (List Char)
  | '\n' :: rest => some rest
  | '\r' :: '\n' :: rest => some rest
  | _ => none

def skipComment : List Char → List Char
  | '#' :: rest => rest.dropWhile isPlain
  | text => text

/-- What follows the line on which a statement ends. -/
def lineEnd? (text : List Char) : Option (List Char) :=
  match skipComment (skipSpaces text) with
  | [] => some []
  | rest => newline? rest

def dropLines : Nat → List Char → List Char
  | 0, text => text
  | bound + 1, text =>
    match newline? (skipComment (skipSpaces text)) with
    | some rest => dropLines bound rest
    | none => skipSpaces text

/-- Drops spaces, comments and line ends. A comment has to end with its line. -/
def skipLines (text : List Char) : List Char := dropLines text.length text

def dropBlanks : List Char → List Char
  | '\r' :: '\n' :: rest => dropBlanks rest
  | c :: rest => if isSpace c || c = '\n' then dropBlanks rest else c :: rest
  | [] => []

/-- Drops spaces and line ends. -/
def skipBlanks (text : List Char) : List Char := dropBlanks text

end Retention.Toml
