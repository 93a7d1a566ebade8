import Mathlib.Data.List.Nodup
import Retention.Proofs.Toml.Lines

/-!
The statements of a table build the table again, its plain values first. A header is looked for along its
path from the outermost table: each table on the way is a hole in the one around it, and what is done at
the end of the path is done in the innermost hole. A table whose header was left out is made on the way
to its first table.
-/
namespace Retention.Toml

namespace Entries

def keys (entries : Entries) : List String := entries.map Prod.fst

variable {key : String} {entries : Entries}

theorem adjust_fresh (f : Option Node → Option Node) (fresh : key ∉ entries.keys) :
    adjust key f entries = (f none).map fun node => entries ++ [(key, node)] := by
  induction entries with
  | nil => rfl
  | cons entry entries ih =>
    obtain ⟨name, node⟩ := entry
    simp only [keys, List.map_cons, List.mem_cons, not_or] at fresh
    rw [adjust, if_neg (Ne.symm fresh.1), ih fresh.2, Option.map_map]
    rfl

theorem adjust_last (f : Option Node → Option Node) (node : Node) (fresh : key ∉ entries.keys) :
    adjust key f (entries ++ [(key, node)]) =
      (f (some node)).map fun node => entries ++ [(key, node)] := by
  induction entries with
  | nil =>
    rw [List.nil_append, adjust, if_pos rfl]
    rfl
  | cons entry entries ih =>
    obtain ⟨name, other⟩ := entry
    simp only [keys, List.map_cons, List.mem_cons, not_or] at fresh
    rw [List.cons_append, adjust, if_neg (Ne.symm fresh.1), ih fresh.2, Option.map_map]
    rfl

theorem within_append (f : Origin → Entries → Option Entries) (path more : List String)
    (origin : Origin) (entries : Entries) : within false f (path ++ more) origin entries =
      within false (within false f more) path origin entries := by
  induction path generalizing origin entries with
  | nil => rfl
  | cons key path ih =>
    rw [List.cons_append, within, within]
    congr 1
    funext found
    simp only [ih]

/-- At the end of the path, the root leads to the entries of a table; with others in their place it would
be the filled one. -/
structure Leads (path : List String) (root : Entries) (origin : Origin) (here : Entries)
    (fill : Entries → Entries) : Prop where
  here : ∀ f, within false f path .header root = (f origin here).map fill
  there : ∀ f there, within false f path .header (fill there) = (f origin there).map fill

namespace Leads

variable {path : List String} {root here : Entries} {origin : Origin} {fill : Entries → Entries}

theorem start (entries : Entries) : Leads [] entries .header entries id :=
  ⟨fun _ => Option.map_id'.symm, fun _ _ => Option.map_id'.symm⟩

theorem filled (leads : Leads path root origin here fill) (there : Entries) :
    Leads path (fill there) origin there fill :=
  ⟨fun f => leads.there f there, leads.there⟩

/-- A table that has come last leads on to its entries. -/
theorem inner (leads : Leads path root origin here fill) (fresh : key ∉ here.keys)
    (made : Origin) (entries : Entries) :
    Leads (path ++ [key]) (fill (here ++ [(key, .table made entries)])) made entries
      fun entries => fill (here ++ [(key, .table made entries)]) := by
  have step (f : Origin → Entries → Option Entries) (entries : Entries) :
      within false f (path ++ [key]) .header (fill (here ++ [(key, .table made entries)])) =
        (f made entries).map fun entries => fill (here ++ [(key, .table made entries)]) := by
    rw [within_append, leads.there, within, adjust_last _ _ fresh]
    simp [within, Option.map_map, Function.comp_def]
  exact ⟨fun f => step f entries, step⟩

/-- A table that is not there yet is made on the way. -/
theorem missing (leads : Leads path root origin here fill) (fresh : key ∉ here.keys) :
    Leads (path ++ [key]) root .implied [] fun entries =>
      fill (here ++ [(key, .table .implied entries)]) := by
  refine ⟨fun f => ?_, fun f there => (leads.inner fresh .implied []).there f there⟩
  rw [within_append, leads.here, within, adjust_fresh _ fresh]
  simp [within, Option.map_map, Function.comp_def]

end Leads
end Entries

/-! Statements. -/

section Statements

open Entries

variable {path : List String} {root here : Entries} {origin : Origin} {fill : Entries → Entries}
  {key : String}

theorem extend_table (leads : Leads path root origin here fill) (fresh : key ∉ here.keys)
    (opened : List String) : Document.extend ⟨root, opened⟩ (.table ⟨path, key⟩) =
      some ⟨fill (here ++ [(key, .table .header [])]), path ++ [key]⟩ := by
  rw [Document.extend, Entries.openTable]
  simp only [leads.here, adjust_fresh _ fresh]
  rfl

theorem extend_pair (leads : Leads path root .header here fill) (fresh : key ∉ here.keys)
    (value : Toml) : Document.extend ⟨root, path⟩ (.pair ⟨[], key⟩ value) =
      some ⟨fill (here ++ [(key, .leaf value)]), path⟩ := by
  have set : setValue [] key value .header here = some (here ++ [(key, .leaf value)]) := by
    rw [setValue, within, setNew, adjust_fresh _ fresh]
    rfl
  rw [Document.extend]
  simp only [leads.here, set]
  rfl

/-- The values of a table as they stand in it. -/
def leaves (entries : List (String × Toml)) : Entries := entries.map fun entry => (entry.1, .leaf entry.2)

theorem key_ne {entry other : String × Toml} {entries : List (String × Toml)}
    (distinct : ((entry :: entries).map Prod.fst).Nodup) (member : other ∈ entries) :
    other.1 ≠ entry.1 := by
  intro same
  have first := (List.nodup_cons.mp distinct).1
  rw [← same] at first
  exact first (List.mem_map_of_mem member)

theorem foldlM_pairs (leads : Leads path root .header here fill) (reached : root = fill here)
    {entries : List (String × Toml)} (distinct : (entries.map Prod.fst).Nodup)
    (fresh : ∀ entry ∈ entries, entry.1 ∉ here.keys) :
    (entries.map fun entry => .pair ⟨[], entry.1⟩ entry.2).foldlM Document.extend ⟨root, path⟩ =
      some ⟨fill (here ++ leaves entries), path⟩ := by
  induction entries generalizing root here with
  | nil =>
    rw [reached, leaves, List.map_nil, List.map_nil, List.append_nil]
    rfl
  | cons entry entries ih =>
    obtain ⟨first, others⟩ := List.forall_mem_cons.mp fresh
    have tail := (List.nodup_cons.mp distinct).2
    have later : ∀ other ∈ entries, other.1 ∉ keys (here ++ [(entry.1, .leaf entry.2)]) := by
      intro other member
      have apart := key_ne distinct member
      simpa [keys, apart] using others other member
    have rest := ih (leads.filled _) rfl tail later
    rw [List.map_cons, List.foldlM_cons, extend_pair leads first]
    simpa [leaves] using rest

mutual
/-- A table with the plain values before the tables in it, and so in each of these. -/
def ordered : Toml → Toml
  | .table entries => .table (values entries ++ orderedTables entries)
  | value => value

def orderedTables : List (String × Toml) → List (String × Toml)
  | [] => []
  | (key, value) :: entries =>
    if value.isTable then (key, ordered value) :: orderedTables entries else orderedTables entries
end

mutual
/-- What the statements of a value build. -/
def built : Toml → Node
  | .table entries =>
    .table (if (values entries).isEmpty && !entries.isEmpty then .implied else .header)
      (leaves (values entries) ++ builtTables entries)
  | value => .leaf value

def builtTables : List (String × Toml) → Entries
  | [] => []
  | (key, value) :: entries =>
    if value.isTable then (key, built value) :: builtTables entries else builtTables entries
end

/-- The statements of a value, at a key that is still free, put the value there. -/
def Builds (value : Toml) : Prop :=
  ∀ (path : List String) (root here : Entries) (origin : Origin) (fill : Entries → Entries)
    (key : String) (opened : List String), Leads path root origin here fill → key ∉ here.keys →
    ∃ last, (statements (path ++ [key]) value).foldlM Document.extend ⟨root, opened⟩ =
      some ⟨fill (here ++ [(key, built value)]), last⟩

/-- The tables of a table are built one after the other. While it has no entries it need not be there. -/
theorem foldlM_entryStatements {entries : List (String × Toml)}
    (each : ∀ entry ∈ entries, entry.2.isTable = true → Builds entry.2)
    (leads : Leads path root origin here fill) (opened : List String)
    (reached : root = fill here ∨ ∃ entry ∈ entries, entry.2.isTable = true)
    (distinct : (entries.map Prod.fst).Nodup)
    (fresh : ∀ entry ∈ entries, entry.2.isTable = true → entry.1 ∉ here.keys) :
    ∃ last, (entryStatements path entries).foldlM Document.extend ⟨root, opened⟩ =
      some ⟨fill (here ++ builtTables entries), last⟩ := by
  induction entries generalizing root here opened with
  | nil =>
    obtain rfl : root = fill here := by simpa using reached
    exact ⟨opened, by rw [builtTables, List.append_nil]; rfl⟩
  | cons entry entries ih =>
    obtain ⟨key, value⟩ := entry
    obtain ⟨builds, others⟩ := List.forall_mem_cons.mp each
    obtain ⟨free, frees⟩ := List.forall_mem_cons.mp fresh
    have tail := (List.nodup_cons.mp distinct).2
    rw [entryStatements, builtTables]
    by_cases table : value.isTable = true
    · -- From here on the table around is there, with this one as its last entry.
      obtain ⟨next, first⟩ := builds table path root here origin fill key opened leads (free table)
      have later : ∀ other ∈ entries, other.2.isTable = true →
          other.1 ∉ keys (here ++ [(key, built value)]) := by
        intro other member inner
        have apart : other.1 ≠ key := key_ne distinct member
        simpa [keys, apart] using frees other member inner
      obtain ⟨last, rest⟩ := ih others (leads.filled _) next (.inl rfl) tail later
      refine ⟨last, ?_⟩
      rw [List.foldlM_append, first, if_pos table]
      simpa using rest
    · have none : statements (path ++ [key]) value = [] := by
        cases value <;> first | rfl | exact absurd rfl table
      have kept : root = fill here ∨ ∃ entry ∈ entries, entry.2.isTable = true := by
        refine reached.imp_right ?_
        rintro ⟨other, member, inner⟩
        rcases List.mem_cons.mp member with rfl | later
        · exact absurd inner table
        · exact ⟨other, later, inner⟩
      rw [none, List.nil_append, if_neg table]
      exact ih others leads opened kept tail frees

theorem not_mem_keys_leaves {entries : List (String × Toml)} (distinct : (entries.map Prod.fst).Nodup) :
    ∀ entry ∈ entries, entry.2.isTable = true → entry.1 ∉ (leaves (values entries)).keys := by
  intro entry member table key
  simp only [keys, leaves, List.map_map, Function.comp_def, List.mem_map] at key
  obtain ⟨other, single, same⟩ := key
  obtain ⟨inside, plain⟩ := List.mem_filter.mp single
  have equal := List.inj_on_of_nodup_map distinct inside member same
  rw [equal, table] at plain
  cases plain

theorem Tree.builds {depth : Nat} {value : Toml} (tree : Tree depth value)
    (table : value.isTable = true) : Builds value := by
  induction tree with
  | leaf plain =>
    rw [plain.isTable] at table
    cases table
  | @table depth entries distinct each ih =>
    intro path root here origin fill key opened leads fresh
    have own : ((values entries).map Prod.fst).Nodup :=
      distinct.sublist (List.filter_sublist.map Prod.fst)
    rw [statements, ownStatements, built]
    by_cases hidden : ((values entries).isEmpty && !entries.isEmpty) = true
    · -- The header was left out: there are tables, and the first of them makes the way.
      simp only [Bool.and_eq_true, List.isEmpty_iff, Bool.not_eq_true', List.isEmpty_eq_false_iff]
        at hidden
      obtain ⟨none, filled⟩ := hidden
      have inner : ∃ entry ∈ entries, entry.2.isTable = true := by
        obtain ⟨entry, more, rfl⟩ := List.exists_cons_of_ne_nil filled
        have all := List.filter_eq_nil_iff.mp none entry List.mem_cons_self
        exact ⟨entry, List.mem_cons_self, by simpa using all⟩
      have made := foldlM_entryStatements ih (leads.missing fresh) opened (.inr inner) distinct
        (fun _ _ _ => List.not_mem_nil)
      simpa [none, filled, leaves] using made
    · have header := extend_table leads fresh opened
      have inside := leads.inner fresh .header []
      have pairs := foldlM_pairs inside rfl own fun _ _ => List.not_mem_nil
      rw [List.nil_append] at pairs
      obtain ⟨last, made⟩ := foldlM_entryStatements ih (inside.filled _) (path ++ [key]) (.inl rfl) distinct
        (not_mem_keys_leaves distinct)
      refine ⟨last, ?_⟩
      rw [if_neg hidden, if_neg hidden, ofParts?_concat, Option.map_some, Option.toList_some,
        List.singleton_append, List.cons_append, List.foldlM_cons, header, Option.bind_eq_bind,
        Option.bind_some, List.foldlM_append, pairs, Option.bind_eq_bind, Option.bind_some, made]

theorem entryValues_append (first second : Entries) :
    entryValues (first ++ second) = entryValues first ++ entryValues second := by
  induction first with
  | nil => rfl
  | cons entry first ih => rw [List.cons_append, entryValues, entryValues, ih, List.cons_append]

theorem entryValues_leaves (entries : List (String × Toml)) : entryValues (leaves entries) = entries := by
  induction entries with
  | nil => rfl
  | cons entry entries ih =>
    rw [leaves, List.map_cons, entryValues, ← leaves, ih, Node.value]

theorem Tree.value_built {depth : Nat} {value : Toml} (tree : Tree depth value) :
    (built value).value = ordered value := by
  induction tree with
  | leaf plain => cases plain <;> rfl
  | @table depth entries distinct each ih =>
    have tables : entryValues (builtTables entries) = orderedTables entries := by
      clear distinct each
      induction entries with
      | nil => rfl
      | cons entry entries inner =>
        obtain ⟨first, others⟩ := List.forall_mem_cons.mp ih
        rw [builtTables, orderedTables]
        split
        · rw [entryValues, first, inner others]
        · exact inner others
    rw [built, ordered, Node.value, entryValues_append, entryValues_leaves, tables]

end Statements

/-- A written table is read back, with the plain values of each table before the tables in it. -/
theorem parse?_document {entries : List (String × Toml)}
    (tree : Tree (depthLimit + 1) (.table entries)) :
    parse? (document (.table entries) ++ "\n") = some (ordered (.table entries)) := by
  have value := tree.value_built
  have list := list?_document tree
  cases tree with
  | leaf plain => cases plain
  | table distinct each =>
    have own : ((values entries).map Prod.fst).Nodup :=
      distinct.sublist (List.filter_sublist.map Prod.fst)
    have leads := Entries.Leads.start []
    have pairs := foldlM_pairs leads rfl own fun _ _ => List.not_mem_nil
    have builds := fun entry member (table : entry.2.isTable = true) =>
      (each entry member).builds table
    obtain ⟨last, made⟩ := foldlM_entryStatements builds (leads.filled _) [] (.inl rfl) distinct
      (not_mem_keys_leaves distinct)
    have outermost : ownStatements [] entries =
        (values entries).map fun entry => .pair ⟨[], entry.1⟩ entry.2 := by
      unfold ownStatements
      split <;> rfl
    have whole : (statements [] (.table entries)).foldlM Document.extend .empty =
        some ⟨leaves (values entries) ++ builtTables entries, last⟩ := by
      rw [statements, outermost, List.foldlM_append]
      exact (congrArg (· >>= _) pairs).trans made
    rw [built, Node.value] at value
    rw [parse?, list, Option.bind_eq_bind, Option.bind_some, whole, Option.bind_eq_bind,
      Option.bind_some, value]
    rfl

end Retention.Toml
