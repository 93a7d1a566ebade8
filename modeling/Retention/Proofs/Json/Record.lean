import Retention.Json.Record
import Retention.Proofs.Dictionary
import Retention.Proofs.Json.Written

/-!
What values denote. A value denotes what its reader finds in it, and if it is plain then its text denotes
the same.
-/
namespace Retention

namespace Json

variable {α : Type} {read : Json → Option α}

/-- The value is plain, and it is read as the meaning. -/
structure Denotes (read : Json → Option α) (value : Json) (meaning : α) : Prop where
  plain : Plain value
  reads : read value = some meaning

/-- What was written, on one line, over several or with the end of the last line, is read back. -/
theorem Denotes.parsed {value : Json} {meaning : α} (denotes : Denotes read value meaning) :
    (parse? value.compact).bind read = some meaning ∧
    (parse? value.pretty).bind read = some meaning ∧
    (parse? (value.pretty ++ "\n")).bind read = some meaning := by
  rw [parse?_compact denotes.plain, parse?_pretty denotes.plain, parse?_line denotes.plain]
  exact ⟨denotes.reads, denotes.reads, denotes.reads⟩

@[simp] theorem plain_str (text : String) : Plain (.str text) := .str text

@[simp] theorem plain_bool (value : Bool) : Plain (.bool value) := .bool value

@[simp] theorem plain_nat (value : Nat) : Plain (.nat value) := .int value

@[simp] theorem plain_word (value : UInt64) : Plain (.word value) := plain_nat value.toNat

@[simp] theorem text?_str (text : String) : text? (.str text) = some text := rfl

@[simp] theorem bool?_bool (value : Bool) : bool? (.bool value) = some value := rfl

theorem nat?_nat {value bound : Nat} (below : value < bound) : nat? bound (.nat value) = some value :=
  if_pos below

@[simp] theorem word64?_word (value : UInt64) : word64? (.word value) = some value := by
  rw [word64?, word, nat?_nat value.toNat_lt_size, Option.map_some, UInt64.ofNat_toNat]

theorem denotes_str (text : String) : Denotes text? (.str text) text := ⟨plain_str text, text?_str text⟩

theorem denotes_word (value : UInt64) : Denotes word64? (.word value) value :=
  ⟨plain_word value, word64?_word value⟩

theorem denotes_choice {names : List (String × α)} {name : String} {meaning : α}
    (found : names.lookup name = some meaning) : Denotes (choice? names) (.str name) meaning :=
  ⟨.str name, found⟩

theorem denotes_array {items : List Json} {meanings : List α}
    (each : List.Forall₂ (Denotes read) items meanings) :
    Denotes (list? read) (.array items) meanings := by
  constructor
  · have plain : ∀ item ∈ items, Plain item := by
      induction each with
      | nil => simp
      | cons first _ ih => exact List.forall_mem_cons.mpr ⟨first.plain, ih⟩
    exact .array plain
  · exact mapM_eq_some_iff.mpr (each.imp fun _ _ denotes => denotes.reads)

theorem denotes_list {write : α → Json} (each : ∀ meaning, Denotes read (write meaning) meaning)
    (meanings : List α) : Denotes (list? read) (.array (meanings.map write)) meanings :=
  denotes_array (List.forall₂_map_left_iff.mpr (List.forall₂_same.mpr fun meaning _ => each meaning))

/-- The same where not everything has a written form. -/
theorem denotes_mapM {write : α → Option Json} {meanings : List α} {values : List Json}
    (each : ∀ meaning ∈ meanings, ∀ value, write meaning = some value → Denotes read value meaning)
    (written : meanings.mapM write = some values) :
    Denotes (list? read) (.array values) meanings := by
  refine denotes_array ?_
  have told := mapM_eq_some_iff.mp written
  clear written
  induction told with
  | nil => exact .nil
  | cons first _ ih =>
    obtain ⟨head, tail⟩ := List.forall_mem_cons.mp each
    exact .cons (head _ first) (ih tail)

theorem denotes_strings (texts : List String) : Denotes (list? text?) (.strings texts) texts :=
  denotes_list denotes_str texts

@[simp] theorem orNull?_str (text : String) :
    orNull? read (.str text) = (read (.str text)).map some := rfl

/-- Null is kept for what is absent. -/
theorem denotes_orNull {write : α → Json} (each : ∀ meaning, Denotes read (write meaning) meaning)
    (other : ∀ meaning, write meaning ≠ .null) (meaning : Option α) :
    Denotes (orNull? read) (.orNull write meaning) meaning := by
  cases meaning with
  | none => exact ⟨.null, rfl⟩
  | some meaning =>
    refine ⟨(each meaning).plain, ?_⟩
    rw [orNull, orNull?, (each meaning).reads, Option.map_some]
    exact other meaning

theorem denotes_dictionary {write : α → Json} {dictionary : Dictionary α}
    (each : ∀ entry ∈ dictionary.entries, Denotes read (write entry.2) entry.2) :
    Denotes (dictionary? read) (.object (dictionary.entries.map fun entry => (entry.1, write entry.2)))
      dictionary := by
  constructor
  · refine .object fun entry member => ?_
    obtain ⟨source, inside, rfl⟩ := List.mem_map.mp member
    exact (each source inside).plain
  · have all : (dictionary.entries.map fun entry => (entry.1, write entry.2)).mapM
        (fun entry => (read entry.2).map (entry.1, ·)) = some dictionary.entries := by
      refine mapM_eq_some_iff.mpr (List.forall₂_map_left_iff.mpr (List.forall₂_same.mpr ?_))
      intro entry member
      rw [(each entry member).reads]
      rfl
    rw [dictionary?, all, Option.map_some, Dictionary.ofList_entries]

end Json
end Retention
