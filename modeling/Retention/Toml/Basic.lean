import Retention.Text.Numeral

/-!
TOML values, and reading typed values out of them. A record is a table, where unknown keys are
skipped, or an array that holds all its fields in their declared order. Nothing in TOML stands for an
absent value.
-/
namespace Retention

inductive Toml
  | str (value : String)
  | int (value : Int)
  | float (spelling : String)
  | bool (value : Bool)
  /-- A date, a time of day, or both. -/
  | moment (spelling : String)
  | array (items : List Toml)
  | table (entries : List (String × Toml))
deriving Inhabited, BEq, Repr

namespace Toml

def text? : Toml → Option String
  | .str value => some value
  | _ => none

def bool? : Toml → Option Bool
  | .bool value => some value
  | _ => none

def word64? : Toml → Option UInt64
  | .int (.ofNat value) => if value < UInt64.size then some (.ofNat value) else none
  | _ => none

def list? {α : Type} (read : Toml → Option α) : Toml → Option (List α)
  | .array items => items.mapM read
  | _ => none

/-- A field that may be left out, but has to be readable where it stands. -/
def optional {α : Type} (read : Toml → Option α) : Option Toml → Option (Option α)
  | none => some none
  | some value => (read value).map some

/-- The fields of a record in their declared order. A moment counts as a table without any of them. -/
def fields? (names : List String) : Toml → Option (List (Option Toml))
  | .table entries => some (names.map fun name => entries.lookup name)
  | .moment _ => some (names.map fun _ => none)
  | .array items =>
    if names.length ≤ items.length then some ((items.take names.length).map some) else none
  | _ => none

end Toml
end Retention
