import Retention.Toml.Quoted
import Retention.Toml.Scalar
import Retention.Toml.Tree

/-!
Reading keys and values. Arrays may spread over lines and end with a comma; inline tables may do
neither. Containers nest, and keys have parts, up to a limit.
-/
namespace Retention.Toml

/-- The most containers around a value, and the most parts of a key. -/
def depthLimit : Nat := 79

def isBareKeyChar (c : Char) : Bool := c.isAlphanum || c = '-' || c = '_'

/-- One part of a key. -/
def simpleKey? : List Char → Option (String × List Char)
  | [] => none
  | c :: rest =>
    if Quoted.isQuote c then Quoted.line? c rest
    else
      let key := (c :: rest).takeWhile isBareKeyChar
      if key.isEmpty then none else some (.ofList key, (c :: rest).dropWhile isBareKeyChar)

def keyParts? : Nat → List Char → Option (List String × List Char)
  | 0, _ => none
  | bound + 1, text =>
    match simpleKey? (skipSpaces text) with
    | none => none
    | some (part, rest) =>
      match skipSpaces rest with
      | '.' :: rest => (keyParts? bound rest).map fun (parts, rest) => (part :: parts, rest)
      | rest => some ([part], rest)

/-- A key as the path to a table and the last part, which is a name in it. -/
structure Key where
  path : List String
  name : String

def Key.ofParts? (parts : List String) : Option Key :=
  parts.getLast?.map fun name => ⟨parts.dropLast, name⟩

/-- A key with the spaces around it. -/
def key? (text : List Char) : Option (Key × List Char) := do
  let (parts, rest) ← keyParts? depthLimit text
  return (← Key.ofParts? parts, rest)

abbrev Reader := List Char → Option (Toml × List Char)

/-- The items of an array, after its opening bracket or a comma. -/
def itemsFrom (read : Reader) : Nat → List Char → Option (List Toml × List Char)
  | 0, _ => none
  | bound + 1, text =>
    match skipLines text with
    | ']' :: rest => some ([], rest)
    | text => do
      let (item, rest) ← read text
      match skipLines rest with
      | ',' :: rest => (itemsFrom read bound rest).map fun (items, rest) => (item :: items, rest)
      | ']' :: rest => some ([item], rest)
      | _ => none

def array? (read : Reader) (text : List Char) : Option (Toml × List Char) :=
  (itemsFrom read (text.length + 1) text).map fun (items, rest) => (.array items, rest)

/-- A key and its value, without the spaces after it. -/
def pair? (read : Reader) (text : List Char) : Option ((Key × Toml) × List Char) := do
  let (key, rest) ← key? text
  match rest with
  | '=' :: rest =>
    let (value, rest) ← read (skipSpaces rest)
    return ((key, value), rest)
  | _ => none

/-- The entries of an inline table, after its opening brace or a comma. -/
def pairsFrom (read : Reader) (entries : Entries) : Nat → List Char → Option (Entries × List Char)
  | 0, _ => none
  | bound + 1, text => do
    let ((key, value), rest) ← pair? read text
    let entries ← entries.setValue key.path key.name value .header
    match skipSpaces rest with
    | ',' :: rest => pairsFrom read entries bound rest
    | '}' :: rest => some (entries, rest)
    | _ => none

def inlineTable? (read : Reader) (text : List Char) : Option (Toml × List Char) :=
  match skipSpaces text with
  | '}' :: rest => some (.table [], rest)
  | text => (pairsFrom read [] text.length text).map fun (entries, rest) =>
    (.table (entryValues entries), rest)

def valueFrom : Nat → Reader
  | depth, c :: rest =>
    if Quoted.isQuote c then (Quoted.any? c rest).map fun (text, rest) => (.str text, rest)
    else if c = '[' then
      match depth with
      | 0 => none
      | depth + 1 => array? (valueFrom depth) rest
    else if c = '{' then
      match depth with
      | 0 => none
      | depth + 1 => inlineTable? (valueFrom depth) rest
    else Scalar.any? (c :: rest)
  | _, [] => none

/-- The value at the start of a text, and what follows it. -/
def value? : Reader := valueFrom depthLimit

end Retention.Toml
