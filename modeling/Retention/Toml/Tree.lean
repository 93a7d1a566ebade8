import Retention.Toml.Basic

/-!
Tables while they are being filled. How a table came to be decides what may be added to it: a table
has one header at most, and dotted keys add only to tables that dotted keys have made.
-/
namespace Retention.Toml

/-- What made a table: a header of its own, the path of another header, or a dotted key. -/
inductive Origin
  | header
  | implied
  | dotted
deriving DecidableEq, Repr

inductive Node
  | leaf (value : Toml)
  | table (origin : Origin) (entries : List (String × Node))
  /-- Tables under one key, of which the last can still be filled. -/
  | tables (earlier : List (List (String × Node))) (last : List (String × Node))

abbrev Entries := List (String × Node)

namespace Entries

/-- Puts a node in the place of the one under the key, or of none. -/
def adjust (key : String) (f : Option Node → Option Node) : Entries → Option Entries
  | [] => (f none).map fun node => [(key, node)]
  | (name, node) :: rest =>
    if name = key then (f (some node)).map fun node => (name, node) :: rest
    else (adjust key f rest).map ((name, node) :: ·)

/-- Goes down a path, makes the tables that are missing, and changes the entries at its end. -/
def within (dotted : Bool) (f : Origin → Entries → Option Entries) :
    List String → Origin → Entries → Option Entries
  | [], origin, entries => f origin entries
  | key :: path, _, entries => adjust key (fun
      | none =>
        let origin := if dotted then .dotted else .implied
        (within dotted f path origin []).map (.table origin)
      | some (.leaf _) => none
      | some (.table origin entries) =>
        if dotted && origin = .header then none
        else (within dotted f path origin entries).map (.table origin)
      | some (.tables earlier last) =>
        (within dotted f path .header last).map (.tables earlier)) entries

def setNew (node : Node) (key : String) : Entries → Option Entries :=
  adjust key fun
    | none => some node
    | some _ => none

/-- Sets a value under a dotted key. A path of dotted keys has to end in a table that they made. -/
def setValue (path : List String) (key : String) (value : Toml) (origin : Origin)
    (entries : Entries) : Option Entries :=
  within true (fun origin entries =>
    if (origin == .dotted) == path.isEmpty then none else setNew (.leaf value) key entries)
    path origin entries

def openTable (path : List String) (key : String) (entries : Entries) : Option Entries :=
  within false (fun _ => adjust key fun
    | none => some (.table .header [])
    | some (.table .implied entries) => some (.table .header entries)
    | _ => none) path .header entries

def openElement (path : List String) (key : String) (entries : Entries) : Option Entries :=
  within false (fun _ => adjust key fun
    | none => some (.tables [] [])
    | some (.tables earlier last) => some (.tables (earlier ++ [last]) [])
    | _ => none) path .header entries

end Entries

mutual
def Node.value : Node → Toml
  | .leaf value => value
  | .table _ entries => .table (entryValues entries)
  | .tables earlier last => .array (tableValues earlier ++ [.table (entryValues last)])

def entryValues : List (String × Node) → List (String × Toml)
  | [] => []
  | (key, node) :: entries => (key, node.value) :: entryValues entries

def tableValues : List (List (String × Node)) → List Toml
  | [] => []
  | entries :: rest => .table (entryValues entries) :: tableValues rest
end

end Retention.Toml
