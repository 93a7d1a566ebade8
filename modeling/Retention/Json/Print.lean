import Retention.Text.Numeral
import Retention.Json.Basic

/-!
Writing JSON: on one line without blanks, or over several lines with two more spaces for each level.
Members come out in the order they are held in.
-/
namespace Retention.Json

/-- Characters that may not stand for themselves in a string; other controls get four digits. -/
def escaped (c : Char) : List Char :=
  match c with
  | '"' => ['\\', '"']
  | '\\' => ['\\', '\\']
  | '\x08' => ['\\', 'b']
  | '\x0c' => ['\\', 'f']
  | '\n' => ['\\', 'n']
  | '\r' => ['\\', 'r']
  | '\t' => ['\\', 't']
  | c => if c.toNat < 0x20 then '\\' :: 'u' :: (Text.hexPadded false 4 c.toNat).toList else [c]

def quote (text : String) : String := "\"" ++ .ofList (text.toList.flatMap escaped) ++ "\""

/-- What is not well formed has no text and comes out as null. -/
def scalarText : Json → String
  | .bool true => "true"
  | .bool false => "false"
  | .int value => toString value
  | .decimal spelling => spelling
  | .str value => quote value
  | _ => "null"

mutual
def compact : Json → String
  | .array items => "[" ++ ",".intercalate (compactItems items) ++ "]"
  | .object entries => "\x7b" ++ ",".intercalate (compactEntries entries) ++ "\x7d"
  | scalar => scalarText scalar

def compactItems : List Json → List String
  | [] => []
  | item :: items => compact item :: compactItems items

def compactEntries : List (String × Json) → List String
  | [] => []
  | (key, value) :: entries => (quote key ++ ":" ++ compact value) :: compactEntries entries
end

/-- A container with something in it has one line for each member. -/
def block (opening closing : String) (indent : Nat) (members : List String) : String :=
  if members.isEmpty then opening ++ closing
  else
    let line := "\n" ++ "".pushn ' ' (indent + 2)
    opening ++ line ++ ("," ++ line).intercalate members ++ "\n" ++ "".pushn ' ' indent ++ closing

mutual
def prettyAt (indent : Nat) : Json → String
  | .array items => block "[" "]" indent (prettyItems (indent + 2) items)
  | .object entries => block "\x7b" "\x7d" indent (prettyEntries (indent + 2) entries)
  | scalar => scalarText scalar

def prettyItems (indent : Nat) : List Json → List String
  | [] => []
  | item :: items => prettyAt indent item :: prettyItems indent items

def prettyEntries (indent : Nat) : List (String × Json) → List String
  | [] => []
  | (key, value) :: entries =>
    (quote key ++ ": " ++ prettyAt indent value) :: prettyEntries indent entries
end

def pretty (value : Json) : String := prettyAt 0 value

end Retention.Json
