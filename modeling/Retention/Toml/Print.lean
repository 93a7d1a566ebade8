import Retention.Toml.Value

/-!
Writing TOML. A table comes out under a header with its plain values; its tables follow under headers
of their own. Of the ways to quote a text the first is taken that needs no escape, where there is one.
-/
namespace Retention.Toml
namespace Quoted

/-- The longest run of a character. -/
def longestRun (c : Char) : Nat → List Char → Nat
  | run, [] => run
  | run, d :: rest => if d = c then longestRun c (run + 1) rest else max run (longestRun c 0 rest)

/-- A tab, and a line feed where lines may end, need no escape. -/
def isControl (c : Char) : Bool := c != '\n' && !isPlain c

def hasControl (text : List Char) : Bool := text.any isControl

def hasLines (text : List Char) : Bool := text.contains '\n'

def escapedControl (c : Char) : List Char :=
  match c with
  | '\x08' => ['\\', 'b']
  | '\t' => ['\\', 't']
  | '\n' => ['\\', 'n']
  | '\x0c' => ['\\', 'f']
  | '\r' => ['\\', 'r']
  | '\\' => ['\\', '\\']
  | c => if isPlain c then [c] else '\\' :: 'u' :: (Text.hexPadded true 4 c.toNat).toList

/-- On several lines, line feeds stand for themselves, and so do quotes unless two go before. -/
def escapeFrom (several : Bool) : Nat → List Char → List Char
  | _, [] => []
  | quotes, c :: rest =>
    if c = '"' then
      if several && quotes < 2 then '"' :: escapeFrom several (quotes + 1) rest
      else '\\' :: '"' :: escapeFrom several 0 rest
    else if several && c = '\n' then '\n' :: escapeFrom several 0 rest
    else escapedControl c ++ escapeFrom several 0 rest

def between (quotes : String) (text : List Char) : String := quotes ++ .ofList text ++ quotes

def basic (text : List Char) : String := between "\"" (escapeFrom false 0 text)

/-- A line end right after the opening quotes does not count, so one is put before a text with lines. -/
def opened (text content : List Char) : List Char :=
  if hasLines text then '\n' :: content else content

def multiBasic (text : List Char) : String := between "\"\"\"" (opened text (escapeFrom true 0 text))

def isSimple (text : List Char) : Bool :=
  !hasControl text && !hasLines text && !text.contains '\\' && !text.contains '"'

def isLiteral (text : List Char) : Bool :=
  !hasControl text && !hasLines text && !text.contains '\''

def written (text : List Char) : String :=
  if isSimple text then basic text
  else if isLiteral text then between "'" text
  else if !hasControl text && !text.contains '\\' && longestRun '"' 0 text ≤ 2 then multiBasic text
  else if !hasControl text && longestRun '\'' 0 text ≤ 2 then between "'''" (opened text text)
  else if hasLines text then multiBasic text
  else basic text

def writtenKey (key : List Char) : String :=
  if !key.isEmpty && key.all isBareKeyChar then .ofList key
  else if isSimple key || !isLiteral key then basic key
  else between "'" key

end Quoted

def keyText (key : String) : String := Quoted.writtenKey key.toList

def headerText (path : List String) : String := "[" ++ ".".intercalate (path.map keyText) ++ "]"

/-- An array of two or more items has a line for each. -/
def arrayText (items : List String) : String :=
  if items.length < 2 then "[" ++ ", ".intercalate items ++ "]"
  else "[\n" ++ .join (items.map fun item => "    " ++ item ++ ",\n") ++ "]"

mutual
def valueText : Toml → String
  | .str value => Quoted.written value.toList
  | .int value => toString value
  | .float spelling => spelling
  | .bool true => "true"
  | .bool false => "false"
  | .moment spelling => spelling
  | .array items => arrayText (itemTexts items)
  | .table entries => "\x7b " ++ ", ".intercalate (pairTexts entries) ++ " \x7d"

def itemTexts : List Toml → List String
  | [] => []
  | item :: items => valueText item :: itemTexts items

def pairTexts : List (String × Toml) → List String
  | [] => []
  | (key, value) :: entries => (keyText key ++ " = " ++ valueText value) :: pairTexts entries
end

def isTable : Toml → Bool
  | .table _ => true
  | _ => false

/-- The header and the plain values of a table. A header that only leads to further tables is left
out, and the outermost table has none. -/
def ownLines (path : List String) (entries : List (String × Toml)) : List String :=
  let values := pairTexts (entries.filter fun entry => !entry.2.isTable)
  if path.isEmpty || (values.isEmpty && !entries.isEmpty) then values
  else headerText path :: values

mutual
def sections (path : List String) : Toml → List (List String)
  | .table entries => ownLines path entries :: entrySections path entries
  | _ => []

def entrySections (path : List String) : List (String × Toml) → List (List String)
  | [] => []
  | (key, value) :: entries => sections (path ++ [key]) value ++ entrySections path entries
end

mutual
/-- Every integer has 64 bits. -/
def isWritable : Toml → Bool
  | .int value => Int64.minValue.toInt ≤ value && value ≤ Int64.maxValue.toInt
  | .array items => areWritable items
  | .table entries => entriesWritable entries
  | _ => true

def areWritable : List Toml → Bool
  | [] => true
  | item :: items => item.isWritable && areWritable items

def entriesWritable : List (String × Toml) → Bool
  | [] => true
  | (_, value) :: entries => value.isWritable && entriesWritable entries
end

/-- The sections of a table, with an empty line between them. -/
def document (table : Toml) : String :=
  let written := (sections [] table).filter fun lines => !lines.isEmpty
  "\n".intercalate (written.map Text.unlines)

end Retention.Toml
