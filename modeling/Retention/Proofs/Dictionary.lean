import Mathlib.Data.List.Induction
import Retention.Dictionary

/-!
What a dictionary answers. Under every key the last entry that was put in is in force, and the entries in
their order make up the dictionary again.
-/
namespace Retention
namespace Dictionary

variable {α : Type}

private theorem lookup_cons_eq (asked : String) (entry : String × α) (rest : List (String × α)) :
    (entry :: rest).lookup asked = if asked = entry.1 then some entry.2 else rest.lookup asked := by
  obtain ⟨key, value⟩ := entry
  by_cases same : asked = key
  · simp [same]
  · have differ : (asked == key) = false := by simpa using same
    simp [List.lookup_cons, same, differ]

theorem lookup_insertEntry (key asked : String) (value : α) (entries : List (String × α)) :
    (insertEntry key value entries).lookup asked =
      if asked = key then some value else entries.lookup asked := by
  induction entries with
  | nil => simp [insertEntry, lookup_cons_eq]
  | cons entry rest ih =>
    unfold insertEntry
    split
    · rw [lookup_cons_eq]
    · rename_i notBefore
      split
      · rename_i after
        rw [lookup_cons_eq, lookup_cons_eq, ih]
        by_cases first : asked = entry.1
        · have other : asked ≠ key := by
            rw [first]
            intro equal
            rw [equal] at after
            exact String.lt_irrefl key after
          rw [if_pos first, if_neg other, if_pos first]
        · rw [if_neg first, if_neg first]
      · rename_i notAfter
        have same : entry.1 = key :=
          String.le_antisymm (String.not_lt.mp notBefore) (String.not_lt.mp notAfter)
        rw [lookup_cons_eq, lookup_cons_eq, same]
        split <;> rfl

theorem get?_insert (dictionary : Dictionary α) (key asked : String) (value : α) :
    (dictionary.insert key value).get? asked =
      if asked = key then some value else dictionary.get? asked :=
  lookup_insertEntry key asked value dictionary.entries

theorem ofList_concat (entries : List (String × α)) (entry : String × α) :
    ofList (entries ++ [entry]) = (ofList entries).insert entry.1 entry.2 := by
  simp [ofList, List.foldl_append]

theorem mem_of_get? {dictionary : Dictionary α} {key : String} {value : α}
    (found : dictionary.get? key = some value) : (key, value) ∈ dictionary.entries := by
  obtain ⟨before, after, split, -⟩ := List.lookup_eq_some_iff.mp found
  rw [split]
  exact List.mem_append_right _ List.mem_cons_self

theorem get?_of_mem {dictionary : Dictionary α} {key : String} {value : α}
    (member : (key, value) ∈ dictionary.entries) : dictionary.get? key = some value := by
  obtain ⟨before, after, split⟩ := List.append_of_mem member
  have ascending := dictionary.ascending
  rw [split] at ascending
  refine List.lookup_eq_some_iff.mpr ⟨before, after, split, fun earlier inside => ?_⟩
  have below := (List.pairwise_append.mp ascending).2.2 earlier inside _ List.mem_cons_self
  have apart : key ≠ earlier.1 := by
    rintro rfl
    exact String.lt_irrefl _ below
  simpa using apart

theorem get?_ofList_eq_none {key : String} {entries : List (String × α)}
    (other : ∀ entry ∈ entries, entry.1 ≠ key) : (ofList entries).get? key = none := by
  induction entries using List.reverseRecOn with
  | nil => rfl
  | append_singleton entries entry ih =>
    obtain ⟨earlier, last⟩ := List.forall_mem_append.mp other
    have apart : key ≠ entry.1 := (last entry List.mem_cons_self).symm
    rw [ofList_concat, get?_insert, if_neg apart, ih earlier]

/-- Where no two entries have one key, every entry is in force. -/
theorem get?_ofList {entries : List (String × α)} (apart : (entries.map Prod.fst).Nodup) (key : String) :
    (ofList entries).get? key = entries.lookup key := by
  induction entries using List.reverseRecOn with
  | nil => rfl
  | append_singleton entries entry ih =>
    rw [List.map_append, List.map_singleton, List.nodup_append] at apart
    obtain ⟨earlier, -, other⟩ := apart
    rw [ofList_concat, get?_insert, ih earlier, List.lookup_append, lookup_cons_eq, List.lookup_nil]
    split
    · rename_i same
      have fresh : entries.lookup key = none := by
        refine List.lookup_eq_none_iff.mpr fun found member => ?_
        have differs := other _ (List.mem_map_of_mem member) entry.1 List.mem_cons_self
        simpa [same] using differs.symm
      rw [fresh, Option.none_or]
    · rw [Option.or_none]

theorem nodup_keys (dictionary : Dictionary α) : (dictionary.entries.map Prod.fst).Nodup := by
  refine List.pairwise_map.mpr (dictionary.ascending.imp fun below same => ?_)
  rw [same] at below
  exact String.lt_irrefl _ below

theorem nodup_entries (dictionary : Dictionary α) : dictionary.entries.Nodup :=
  (List.pairwise_map.mp dictionary.nodup_keys).imp fun apart same => apart (congrArg Prod.fst same)

/-- Dictionaries with the same answers are the same. -/
theorem ext_get? {one other : Dictionary α} (same : ∀ key, one.get? key = other.get? key) : one = other := by
  have members : ∀ entry, entry ∈ one.entries ↔ entry ∈ other.entries := fun entry =>
    ⟨fun inside => mem_of_get? ((same entry.1).symm.trans (get?_of_mem inside)),
      fun inside => mem_of_get? ((same entry.1).trans (get?_of_mem inside))⟩
  have permuted : one.entries.Perm other.entries :=
    (List.perm_ext_iff_of_nodup one.nodup_entries other.nodup_entries).mpr members
  have entries := permuted.eq_of_pairwise
    (fun _ _ _ _ below above => absurd below (String.lt_asymm above)) one.ascending other.ascending
  cases one
  cases other
  cases entries
  rfl

theorem mem_of_mem_ofList {entries : List (String × α)} {entry : String × α}
    (member : entry ∈ (ofList entries).entries) : entry ∈ entries := by
  obtain ⟨key, value⟩ := entry
  have found := get?_of_mem member
  clear member
  induction entries using List.reverseRecOn with
  | nil => cases found
  | append_singleton entries last ih =>
    rw [ofList_concat, get?_insert] at found
    split at found
    · rename_i same
      cases found
      rw [same]
      exact List.mem_append_right _ List.mem_cons_self
    · exact List.mem_append_left _ (ih found)

theorem lookup_map {β : Type} (dictionary : Dictionary α) (f : α → β) (key : String) :
    (dictionary.entries.map fun entry => (entry.1, f entry.2)).lookup key =
      (dictionary.get? key).map f := by
  rw [get?]
  induction dictionary.entries with
  | nil => rfl
  | cons entry entries ih =>
    rw [List.map_cons, List.lookup_cons, List.lookup_cons, ih]
    cases key == entry.1 <;> rfl

/-- An entry beyond all others goes to the end. -/
theorem insertEntry_last {key : String} (value : α) {entries : List (String × α)}
    (last : ∀ entry ∈ entries, entry.1 < key) :
    insertEntry key value entries = entries ++ [(key, value)] := by
  induction entries with
  | nil => rfl
  | cons entry entries ih =>
    have before := last entry List.mem_cons_self
    rw [insertEntry, if_neg (String.lt_asymm before), if_pos before,
      ih fun other member => last other (List.mem_cons_of_mem _ member), List.cons_append]

/-- The entries of a dictionary, in their order, make up the dictionary. -/
theorem ofList_entries (dictionary : Dictionary α) : ofList dictionary.entries = dictionary := by
  have gathered : ∀ later (earlier : Dictionary α),
      (earlier.entries ++ later).Pairwise (fun a b => a.1 < b.1) →
        (later.foldl (fun found entry => found.insert entry.1 entry.2) earlier).entries =
          earlier.entries ++ later := by
    intro later
    induction later with
    | nil => simp
    | cons entry later ih =>
      intro earlier ascending
      have last : ∀ other ∈ earlier.entries, other.1 < entry.1 := fun other member =>
        (List.pairwise_append.mp ascending).2.2 other member entry List.mem_cons_self
      have inserted : (earlier.insert entry.1 entry.2).entries = earlier.entries ++ [entry] :=
        insertEntry_last entry.2 last
      rw [List.foldl_cons, ih, inserted, List.append_assoc, List.singleton_append]
      rwa [inserted, List.append_assoc, List.singleton_append]
  have same := gathered dictionary.entries empty dictionary.ascending
  cases whole : ofList dictionary.entries with
  | mk entries ascending =>
    rw [ofList] at whole
    rw [whole] at same
    cases same
    rfl

end Dictionary
end Retention
