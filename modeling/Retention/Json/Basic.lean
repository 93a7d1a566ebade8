/-!
JSON values with the entries of an object in the order they were written, repeats included. Numbers
that are written as integers are kept apart from all others, because no integer field accepts another
spelling of the same value.
-/
namespace Retention

inductive Json
  | null
  | bool (value : Bool)
  | int (value : Int)
  /-- A number with a fraction, an exponent or a signed zero, as written. -/
  | decimal (spelling : String)
  | str (value : String)
  | array (items : List Json)
  | object (entries : List (String × Json))
  /-- Text with an unpaired surrogate escape, or an object with such a key. It may stand where a value
  is skipped, and no reader accepts it. -/
  | illFormed
deriving Inhabited, BEq, Repr

namespace Json

def nat (value : Nat) : Json := .int value

def word (value : UInt64) : Json := .nat value.toNat

def strings (texts : List String) : Json := .array (texts.map .str)

/-- Null stands for an absent value. -/
def orNull {α : Type} (write : α → Json) : Option α → Json
  | none => .null
  | some value => write value

/-- The value under a key of an object; of repeated keys the last counts. -/
def field? (key : String) : Json → Option Json
  | .object entries => entries.reverse.lookup key
  | _ => none

end Json
end Retention
