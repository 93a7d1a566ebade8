/-!
Dictionaries with text keys, held in ascending order of the keys. The order belongs to the type, so
equal contents are equal dictionaries and every listing of one is sorted.
-/
namespace Retention

/-- Entries in strictly ascending order of their keys. -/
structure Dictionary (α : Type) where
  entries : List (String × α)
  ascending : entries.Pairwise fun a b => a.1 < b.1
deriving DecidableEq

namespace Dictionary

variable {α β : Type}

def empty : Dictionary α := ⟨[], .nil⟩

instance : EmptyCollection (Dictionary α) := ⟨empty⟩

instance : Inhabited (Dictionary α) := ⟨empty⟩

/-- The entry goes to its place in the order; an entry under the same key gives way. -/
def insertEntry (key : String) (value : α) : List (String × α) → List (String × α)
  | [] => [(key, value)]
  | entry :: rest =>
    if key < entry.1 then (key, value) :: entry :: rest
    else if entry.1 < key then entry :: insertEntry key value rest
    else (key, value) :: rest

theorem key_of_mem_insertEntry {key : String} {value : α} {entry : String × α} :
    {entries : List (String × α)} → entry ∈ insertEntry key value entries →
      entry.1 = key ∨ entry ∈ entries
  | [], member => by simp_all [insertEntry]
  | first :: rest, member => by
    unfold insertEntry at member
    split at member
    · rcases List.mem_cons.mp member with equal | later
      · exact .inl (by rw [equal])
      · exact .inr later
    · split at member
      · rcases List.mem_cons.mp member with equal | later
        · exact .inr (by simp [equal])
        · exact (key_of_mem_insertEntry later).imp_right (List.mem_cons_of_mem _)
      · rcases List.mem_cons.mp member with equal | later
        · exact .inl (by rw [equal])
        · exact .inr (List.mem_cons_of_mem _ later)

theorem insertEntry_ascending (key : String) (value : α) :
    (entries : List (String × α)) → entries.Pairwise (fun a b => a.1 < b.1) →
      (insertEntry key value entries).Pairwise (fun a b => a.1 < b.1)
  | [], _ => by simp [insertEntry]
  | first :: rest, sorted => by
    obtain ⟨bound, tail⟩ := List.pairwise_cons.mp sorted
    unfold insertEntry
    split
    · rename_i before
      refine List.pairwise_cons.mpr ⟨fun entry member => ?_, sorted⟩
      rcases List.mem_cons.mp member with equal | later
      · exact equal ▸ before
      · exact String.lt_trans before (bound entry later)
    · rename_i notBefore
      split
      · rename_i after
        refine List.pairwise_cons.mpr ⟨fun entry member => ?_, insertEntry_ascending key value rest tail⟩
        rcases key_of_mem_insertEntry member with equal | later
        · exact equal ▸ after
        · exact bound entry later
      · rename_i notAfter
        have same : first.1 = key :=
          String.le_antisymm (String.not_lt.mp notBefore) (String.not_lt.mp notAfter)
        exact List.pairwise_cons.mpr ⟨fun entry member => same ▸ bound entry member, tail⟩

def insert (dictionary : Dictionary α) (key : String) (value : α) : Dictionary α :=
  ⟨insertEntry key value dictionary.entries, insertEntry_ascending key value _ dictionary.ascending⟩

/-- Of entries under one key the last counts. -/
def ofList (entries : List (String × α)) : Dictionary α :=
  entries.foldl (fun dictionary entry => dictionary.insert entry.1 entry.2) empty

def get? (dictionary : Dictionary α) (key : String) : Option α := dictionary.entries.lookup key

def contains (dictionary : Dictionary α) (key : String) : Bool := (dictionary.get? key).isSome

def isEmpty (dictionary : Dictionary α) : Bool := dictionary.entries.isEmpty

def keys (dictionary : Dictionary α) : List String := dictionary.entries.map (·.1)

def map (f : α → β) (dictionary : Dictionary α) : Dictionary β :=
  ⟨dictionary.entries.map fun entry => (entry.1, f entry.2),
    List.pairwise_map.mpr dictionary.ascending⟩

/-- How often each text occurs; texts that do not occur have no entry. -/
def tally (texts : List String) : Dictionary Nat :=
  texts.foldl (fun counts text => counts.insert text ((counts.get? text).getD 0 + 1)) empty

end Dictionary
end Retention
