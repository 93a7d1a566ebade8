import Retention.Toml.Value

/-!
A TOML document is a list of statements, one or more lines each: a header opens a table for the pairs
that follow it.
-/
namespace Retention.Toml

inductive Statement
  | pair (key : Key) (value : Toml)
  | table (key : Key)
  /-- Opens one more table under a key that stands for a list of them. -/
  | element (key : Key)

namespace Statement

def closing? (brackets : List Char) (text : List Char) : Option (List Char) :=
  (brackets.isPrefixOf? text).bind lineEnd?

/-- The statement at the start of a line that is not empty, and the following lines. -/
def read? : List Char → Option (Statement × List Char)
  | '[' :: '[' :: rest => do
    let (key, rest) ← key? rest
    return (.element key, ← closing? [']', ']'] rest)
  | '[' :: rest => do
    let (key, rest) ← key? rest
    return (.table key, ← closing? [']'] rest)
  | text => do
    let ((key, value), rest) ← pair? value? text
    return (.pair key value, ← lineEnd? rest)

def listFrom : Nat → List Char → Option (List Statement)
  | 0, _ => none
  | bound + 1, text =>
    match skipLines text with
    | [] => some []
    | text =>
      if (skipComment text).isEmpty then some []
      else do
        let (statement, rest) ← read? text
        return statement :: (← listFrom bound rest)

/-- The statements of a text. A byte order mark may stand at its start. -/
def list? (text : List Char) : Option (List Statement) :=
  let text := match text with
    | '\uFEFF' :: rest => rest
    | text => text
  listFrom (text.length + 1) text

end Statement

/-- A document as far as it has been read, with the path of the table that is open. -/
structure Document where
  entries : Entries
  openPath : List String

namespace Document

def empty : Document := ⟨[], []⟩

def extend (document : Document) : Statement → Option Document
  | .pair key value => do
    let entries ← Entries.within false (Entries.setValue key.path key.name value) document.openPath
      .header document.entries
    return { document with entries }
  | .table key => do
    return ⟨← document.entries.openTable key.path key.name, key.path ++ [key.name]⟩
  | .element key => do
    return ⟨← document.entries.openElement key.path key.name, key.path ++ [key.name]⟩

end Document

/-- The table that a text denotes. -/
def parse? (text : String) : Option Toml := do
  let statements ← Statement.list? text.toList
  let document ← statements.foldlM Document.extend .empty
  return .table (entryValues document.entries)

end Retention.Toml
