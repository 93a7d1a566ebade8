import Retention.Dictionary
import Retention.Json.Basic

/-!
Reading typed values out of JSON. A record may be written as an object, where unknown keys are
skipped and a known key may stand once, or as an array of its fields in their declared order. Only
fields with a default may be missing at the end of such an array.
-/
namespace Retention.Json

def text? : Json → Option String
  | .str value => some value
  | _ => none

def bool? : Json → Option Bool
  | .bool value => some value
  | _ => none

/-- A count below the bound, written as an integer. -/
def nat? (bound : Nat) : Json → Option Nat
  | .int (.ofNat value) => if value < bound then some value else none
  | _ => none

def word64? (value : Json) : Option UInt64 := (value.nat? UInt64.size).map .ofNat

def word32? (value : Json) : Option UInt32 := (value.nat? UInt32.size).map .ofNat

def list? {α : Type} (read : Json → Option α) : Json → Option (List α)
  | .array items => items.mapM read
  | _ => none

/-- Null means absent. -/
def orNull? {α : Type} (read : Json → Option α) : Json → Option (Option α)
  | .null => some none
  | value => (read value).map some

/-- Of entries under one key the last counts, but each has to be readable. -/
def dictionary? {α : Type} (read : Json → Option α) : Json → Option (Dictionary α)
  | .object entries =>
    (entries.mapM fun entry : String × Json => (read entry.2).map (entry.1, ·)).map .ofList
  | _ => none

/-- A plain choice is its name, or an object with that name as its only key over null. -/
def choice? {α : Type} (names : List (String × α)) : Json → Option α
  | .str name => names.lookup name
  | .object [(name, .null)] => names.lookup name
  | _ => none

/-- What a record holds for one of its fields: a value, nothing, or nothing because the array that
stands for the record ends before it. -/
inductive Slot
  | given (value : Json)
  | missing
  | cutOff

namespace Slot

variable {α : Type}

def required (slot : Slot) (read : Json → Option α) : Option α :=
  match slot with
  | .given value => read value
  | _ => none

def optional (slot : Slot) (read : Json → Option α) : Option (Option α) :=
  match slot with
  | .given value => value.orNull? read
  | .missing => some none
  | .cutOff => none

def defaulted (slot : Slot) (default : α) (read : Json → Option α) : Option α :=
  match slot with
  | .given value => read value
  | _ => some default

end Slot

def slotOf (entries : List (String × Json)) (field : String) : Option Slot :=
  match entries.filter fun entry => entry.1 == field with
  | [] => some .missing
  | [entry] => some (.given entry.2)
  | _ => none

/-- The fields of a record in their declared order. -/
def slots (fields : List String) : Json → Option (List Slot)
  | .object entries => fields.mapM (slotOf entries)
  | .array items =>
    if items.length > fields.length then none
    else some (items.map .given ++ List.replicate (fields.length - items.length) .cutOff)
  | _ => none

/-- A value that names its own case: the case, and the rest of the record without the name. In an
object the name stands under the given key, in an array it comes first. -/
def tagged? (tag : String) : Json → Option (Json × Json)
  | .object entries =>
    match entries.filter fun entry => entry.1 == tag with
    | [entry] => some (entry.2, .object (entries.filter fun entry => entry.1 != tag))
    | _ => none
  | .array (name :: rest) => some (name, .array rest)
  | _ => none

end Retention.Json
