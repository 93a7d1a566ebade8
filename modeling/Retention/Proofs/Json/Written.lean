import Retention.Json.Parse
import Retention.Proofs.Json.Scan

/-!
Written values are read back. Writing on one line and writing over several lines give texts of the same
tokens, and from these the reader builds the value again.
-/
namespace Retention

theorem mapM_eq_some_iff {α β : Type} {f : α → Option β} {xs : List α} {ys : List β} :
    xs.mapM f = some ys ↔ List.Forall₂ (fun x y => f x = some y) xs ys := by
  induction xs generalizing ys with
  | nil => cases ys <;> simp
  | cons x xs ih => cases ys <;> simp [Option.bind_eq_some_iff, ih]

theorem exists_of_mem_mapM {α β : Type} {f : α → Option β} {xs : List α} {ys : List β} {y : β}
    (mapped : xs.mapM f = some ys) (member : y ∈ ys) : ∃ x ∈ xs, f x = some y := by
  have each := mapM_eq_some_iff.mp mapped
  clear mapped
  induction each with
  | nil => cases member
  | cons first _ ih =>
    rcases List.mem_cons.mp member with rfl | later
    · exact ⟨_, List.mem_cons_self, first⟩
    · obtain ⟨x, inside, told⟩ := ih later
      exact ⟨x, List.mem_cons_of_mem _ inside, told⟩

theorem isSome_mapM_iff {α β : Type} {f : α → Option β} {xs : List α} :
    (xs.mapM f).isSome = true ↔ ∀ x ∈ xs, (f x).isSome = true := by
  induction xs with
  | nil => simp
  | cons x xs ih =>
    rw [List.forall_mem_cons, ← ih, List.mapM_cons]
    cases f x <;> cases xs.mapM f <;> simp

namespace Json

/-- Every number in the value is an integer, and every text is well formed. -/
inductive Plain : Json → Prop
  | null : Plain .null
  | bool (value : Bool) : Plain (.bool value)
  | int (value : Int) : Plain (.int value)
  | str (value : String) : Plain (.str value)
  | array {items : List Json} (each : ∀ item ∈ items, Plain item) : Plain (.array items)
  | object {entries : List (String × Json)} (each : ∀ entry ∈ entries, Plain entry.2) :
      Plain (.object entries)

mutual
/-- The tokens of a value; for what is not plain only roughly. -/
def tokens : Json → List Token
  | .null => [.null]
  | .bool value => [.bool value]
  | .int value => [.int value]
  | .decimal spelling => [.decimal spelling]
  | .str value => [.text (some value)]
  | .array items => .openArray :: (List.intercalate [.comma] (itemTokens items) ++ [.closeArray])
  | .object entries =>
    .openObject :: (List.intercalate [.comma] (entryTokens entries) ++ [.closeObject])
  | .illFormed => [.null]

def itemTokens : List Json → List (List Token)
  | [] => []
  | item :: items => tokens item :: itemTokens items

def entryTokens : List (String × Json) → List (List Token)
  | [] => []
  | (key, value) :: entries => (.text (some key) :: .colon :: tokens value) :: entryTokens entries
end

/-! Writing. -/

variable (opening closing : Char) {first last : Token} {members : List String}
  {tokenLists : List (List Token)}

theorem scans_line (opens : Token.punctuation? opening = some first)
    (closes : Token.punctuation? closing = some last)
    (each : List.Forall₂ Scans (members.map String.toList) tokenLists) :
    Scans (opening :: (List.intercalate [','] (members.map String.toList) ++ [closing]))
      (first :: (List.intercalate [.comma] tokenLists ++ [last])) := by
  have none : ∀ c ∈ ([] : List Char), Token.isSpace c = true := by simp
  exact .punctuation opens (.members none none closes each)

theorem scans_block (indent : Nat) (opens : Token.punctuation? opening = some first)
    (closes : Token.punctuation? closing = some last)
    (each : List.Forall₂ Scans (members.map String.toList) tokenLists) :
    Scans (block (.singleton opening) (.singleton closing) indent members).toList
      (first :: (List.intercalate [.comma] tokenLists ++ [last])) := by
  unfold block
  split
  · rename_i empty
    rw [List.isEmpty_iff.mp empty] at each
    cases each
    simpa using Scans.punctuation opens (.punctuation closes .nil)
  · let gap (width : Nat) : List Char := '\n' :: List.replicate width ' '
    have blank (width : Nat) : ∀ c ∈ gap width, Token.isSpace c = true := by
      intro c member
      rcases List.mem_cons.mp member with rfl | space
      · rfl
      · rw [(List.mem_replicate.mp space).2]
        rfl
    have scans := Scans.punctuation opens
      (.spaces (blank (indent + 2)) (.members (blank (indent + 2)) (blank indent) closes each))
    simpa [String.toList_intercalate, Text.toList_pushn, gap] using scans

theorem scans_scalar {value : Json} (plain : Plain value)
    (scalar : tokens value = [first]) : Scans (scalarText value).toList [first] := by
  have literal (word : String) (token : Token) (c : Char) (rest : List Char)
      (spelled : word.toList = c :: rest) (inside : (c :: rest).all Token.isWordChar = true)
      (read : Token.word? (c :: rest) = some token) : Scans word.toList [token] :=
    spelled ▸ .word (List.all_eq_true.mp inside) read
  cases plain with
  | null =>
    cases scalar
    exact literal "null" _ 'n' ['u', 'l', 'l'] rfl rfl rfl
  | bool value =>
    cases scalar
    cases value with
    | false => exact literal "false" _ 'f' ['a', 'l', 's', 'e'] rfl rfl rfl
    | true => exact literal "true" _ 't' ['r', 'u', 'e'] rfl rfl rfl
  | int value =>
    cases scalar
    exact .integer value
  | str value =>
    cases scalar
    exact .quote value
  | array | object => simp [tokens] at scalar

theorem itemTokens_eq (items : List Json) : itemTokens items = items.map tokens := by
  induction items with
  | nil => rfl
  | cons item items ih => rw [itemTokens, ih, List.map_cons]

theorem entryTokens_eq (entries : List (String × Json)) : entryTokens entries =
    entries.map fun entry => .text (some entry.1) :: .colon :: tokens entry.2 := by
  induction entries with
  | nil => rfl
  | cons entry entries ih => rw [entryTokens, ih, List.map_cons]

theorem compactItems_eq (items : List Json) : compactItems items = items.map compact := by
  induction items with
  | nil => rfl
  | cons item items ih => rw [compactItems, ih, List.map_cons]

theorem compactEntries_eq (entries : List (String × Json)) : compactEntries entries =
    entries.map fun entry => quote entry.1 ++ ":" ++ compact entry.2 := by
  induction entries with
  | nil => rfl
  | cons entry entries ih => rw [compactEntries, ih, List.map_cons]

theorem prettyItems_eq (indent : Nat) (items : List Json) :
    prettyItems indent items = items.map (prettyAt indent) := by
  induction items with
  | nil => rfl
  | cons item items ih => rw [prettyItems, ih, List.map_cons]

theorem prettyEntries_eq (indent : Nat) (entries : List (String × Json)) :
    prettyEntries indent entries =
      entries.map fun entry => quote entry.1 ++ ": " ++ prettyAt indent entry.2 := by
  induction entries with
  | nil => rfl
  | cons entry entries ih => rw [prettyEntries, ih, List.map_cons]

theorem forall₂_items {items : List Json} {write : Json → String}
    (each : ∀ item ∈ items, Scans (write item).toList (tokens item)) :
    List.Forall₂ Scans ((items.map write).map String.toList) (itemTokens items) := by
  rw [itemTokens_eq, List.map_map, List.forall₂_map_left_iff, List.forall₂_map_right_iff]
  exact List.forall₂_same.mpr each

/-- An entry has its key before a colon, and perhaps a space behind that. -/
theorem forall₂_entries {entries : List (String × Json)} {write : Json → String} (colon : String)
    (gap : List Char) (spelled : colon.toList = ':' :: gap)
    (blank : ∀ c ∈ gap, Token.isSpace c = true)
    (each : ∀ entry ∈ entries, Scans (write entry.2).toList (tokens entry.2)) :
    List.Forall₂ Scans
      ((entries.map fun entry => quote entry.1 ++ colon ++ write entry.2).map String.toList)
      (entryTokens entries) := by
  rw [entryTokens_eq, List.map_map, List.forall₂_map_left_iff, List.forall₂_map_right_iff]
  refine List.forall₂_same.mpr fun entry member => ?_
  have mark : Token.punctuation? ':' = some .colon := rfl
  have scans := (Scans.quote entry.1).append
    (.punctuation mark (.spaces blank (each entry member))) (apart_of_punctuation mark _)
  simpa [spelled] using scans

theorem Plain.scans_compact {value : Json} (plain : Plain value) :
    Scans (compact value).toList (tokens value) := by
  induction plain with
  | null => exact scans_scalar .null rfl
  | bool value => exact scans_scalar (.bool value) rfl
  | int value => exact scans_scalar (.int value) rfl
  | str value => exact scans_scalar (.str value) rfl
  | @array items each ih =>
    have scans := scans_line '[' ']' rfl rfl (forall₂_items ih)
    simpa [compact, compactItems_eq, String.toList_intercalate, tokens] using scans
  | @object entries each ih =>
    have scans := scans_line '\x7b' '\x7d' rfl rfl
      (forall₂_entries ":" [] rfl (by simp) ih)
    simpa [compact, compactEntries_eq, String.toList_intercalate, tokens] using scans

theorem Plain.scans_pretty {value : Json} (plain : Plain value) (indent : Nat) :
    Scans (prettyAt indent value).toList (tokens value) := by
  induction plain generalizing indent with
  | null => exact scans_scalar .null rfl
  | bool value => exact scans_scalar (.bool value) rfl
  | int value => exact scans_scalar (.int value) rfl
  | str value => exact scans_scalar (.str value) rfl
  | @array items each ih =>
    have members := forall₂_items fun item member => ih item member (indent + 2)
    rw [prettyAt, prettyItems_eq]
    exact scans_block '[' ']' indent rfl rfl members
  | @object entries each ih =>
    have members := forall₂_entries ": " [' '] rfl (List.all_eq_true.mp rfl)
      fun entry member => ih entry member (indent + 2)
    rw [prettyAt, prettyEntries_eq]
    exact scans_block '\x7b' '\x7d' indent rfl rfl members

/-! Reading. -/

namespace Progress

/-- Where the machine stands after more tokens. -/
def after (state : Progress) (tokens : List Token) : Option Progress := tokens.foldlM step state

variable {state next : Progress} {first later : List Token}

theorem after_append (reached : state.after first = some next) :
    state.after (first ++ later) = next.after later := by
  simp only [after] at reached ⊢
  rw [List.foldlM_append, reached]
  rfl

theorem after_cons {token : Token} (stepped : step state token = some next) :
    state.after (token :: later) = next.after later := by
  simp only [after, List.foldlM_cons, stepped]
  rfl

theorem step_awaited {containers : List Frame} {expected : Expected} {token : Token}
    (awaited : expected = .value ∨ expected = .valueOrEnd) (other : token ≠ .closeArray) :
    step (.reading containers expected) token = start containers token := by
  rcases awaited with rfl | rfl
  · rfl
  · cases token <;> first | rfl | contradiction

end Progress

open Progress

/-- Where a value may come next, its tokens put it there. -/
def Reads (value : Json) : Prop :=
  ∀ containers expected, expected = .value ∨ expected = .valueOrEnd →
    (reading containers expected).after (tokens value) = some (place value containers)

theorem reads_scalar {value : Json} {token : Token} (alone : tokens value = [token])
    (other : token ≠ .closeArray)
    (starts : ∀ containers, start containers token = some (place value containers)) :
    Reads value := by
  intro containers expected awaited
  rw [alone, after_cons ((step_awaited awaited other).trans (starts containers))]
  rfl

/-- The items that are still to come, up to the closing bracket. -/
theorem reads_items {items : List Json} (each : ∀ item ∈ items, Reads item) (found : List Json)
    (outer : List Frame) (expected : Expected)
    (awaited : expected = .value ∧ items ≠ [] ∨ expected = .valueOrEnd) :
    (reading (.array found :: outer) expected).after
        (List.intercalate [.comma] (itemTokens items) ++ [.closeArray]) =
      some (place (.array (found.reverse ++ items)) outer) := by
  induction items generalizing found expected with
  | nil =>
    obtain rfl : expected = .valueOrEnd := by simpa using awaited
    rw [List.append_nil]
    rfl
  | cons item items ih =>
    have first := each item List.mem_cons_self (.array found :: outer) expected
      (awaited.imp_left And.left)
    cases items with
    | nil =>
      rw [itemTokens, itemTokens, List.intercalate_singleton, after_append first,
        ← List.reverse_cons]
      rfl
    | cons second others =>
      have later := ih (fun item member => each item (List.mem_cons_of_mem _ member)) (item :: found)
        .value (.inl ⟨rfl, List.cons_ne_nil _ _⟩)
      rw [List.reverse_cons, List.append_assoc] at later
      rw [itemTokens, itemTokens, List.intercalate_cons_cons, List.append_assoc, List.append_assoc,
        after_append first]
      exact later

/-- An entry as an open object holds it. -/
def named (entry : String × Json) : Option String × Json := (some entry.1, entry.2)

theorem objectOf_named (entries : List (String × Json)) :
    objectOf (entries.map named) = .object entries := by
  have all : (entries.map named).mapM (fun entry => entry.1.map (·, entry.2)) = some entries :=
    mapM_eq_some_iff.mpr (List.forall₂_map_left_iff.mpr (List.forall₂_same.mpr fun _ _ => rfl))
  rw [objectOf, all]

/-- The entries that are still to come, up to the closing brace. -/
theorem reads_entries {entries : List (String × Json)} (each : ∀ entry ∈ entries, Reads entry.2)
    (found : List (String × Json)) (outer : List Frame) (expected : Expected)
    (awaited : expected = .key ∧ entries ≠ [] ∨ expected = .keyOrEnd) :
    (reading (.object (found.map named) none :: outer) expected).after
        (List.intercalate [.comma] (entryTokens entries) ++ [.closeObject]) =
      some (place (.object (found.reverse ++ entries)) outer) := by
  induction entries generalizing found expected with
  | nil =>
    obtain rfl : expected = .keyOrEnd := by simpa using awaited
    have closed : step (reading (.object (found.map named) none :: outer) .keyOrEnd) .closeObject =
        some (place (objectOf (found.map named).reverse) outer) := rfl
    rw [← List.map_reverse, objectOf_named] at closed
    rw [List.append_nil]
    exact after_cons closed
  | cons entry entries ih =>
    obtain ⟨key, value⟩ := entry
    have opened : step (reading (.object (found.map named) none :: outer) expected)
        (.text (some key)) = some (reading (.object (found.map named) (some key) :: outer) .colon) := by
      rcases awaited with ⟨rfl, -⟩ | rfl <;> rfl
    have first := each (key, value) List.mem_cons_self
      (.object (found.map named) (some key) :: outer) .value (.inl rfl)
    have entered : (reading (.object (found.map named) none :: outer) expected).after
        (.text (some key) :: .colon :: tokens value) =
          some (reading (.object (((key, value) :: found).map named) none :: outer) .next) := by
      rw [after_cons opened]
      exact first
    cases entries with
    | nil =>
      have closed : step (reading (.object (((key, value) :: found).map named) none :: outer) .next)
          .closeObject =
            some (place (objectOf (((key, value) :: found).map named).reverse) outer) := rfl
      rw [← List.map_reverse, objectOf_named, List.reverse_cons] at closed
      rw [entryTokens, entryTokens, List.intercalate_singleton, after_append entered]
      exact after_cons closed
    | cons second others =>
      have later := ih (fun entry member => each entry (List.mem_cons_of_mem _ member))
        ((key, value) :: found) .key (.inl ⟨rfl, List.cons_ne_nil _ _⟩)
      rw [List.reverse_cons, List.append_assoc] at later
      rw [entryTokens, entryTokens, List.intercalate_cons_cons, List.append_assoc, List.append_assoc,
        after_append entered]
      exact later

theorem Plain.reads {value : Json} (plain : Plain value) : Reads value := by
  induction plain with
  | null => exact reads_scalar rfl (by simp) fun _ => rfl
  | bool value => exact reads_scalar rfl (by simp) fun _ => rfl
  | int value => exact reads_scalar rfl (by simp) fun _ => rfl
  | str value => exact reads_scalar rfl (by simp) fun _ => rfl
  | @array items each ih =>
    intro containers expected awaited
    rw [tokens, after_cons (step_awaited awaited (by simp))]
    exact reads_items ih [] containers .valueOrEnd (.inr rfl)
  | @object entries each ih =>
    intro containers expected awaited
    rw [tokens, after_cons (step_awaited awaited (by simp))]
    exact reads_entries ih [] containers .keyOrEnd (.inr rfl)

/-- A text that is scanned as the tokens of a value denotes the value. -/
theorem parse?_of_scans {value : Json} {text : String} (plain : Plain value)
    (scans : Scans text.toList (tokens value)) : parse? text = some value := by
  have scanned : Token.scan text.toList = some (tokens value) := by
    have whole := scans [] [] (by simp [Apart])
    rw [List.append_nil, List.append_nil] at whole
    rw [Token.scan, whole, Token.scanFrom, List.reverse_reverse]
  have read := plain.reads [] .value (.inl rfl)
  rw [after] at read
  rw [parse?, scanned]
  simp [read, place]

theorem parse?_compact {value : Json} (plain : Plain value) : parse? (compact value) = some value :=
  parse?_of_scans plain plain.scans_compact

theorem parse?_pretty {value : Json} (plain : Plain value) : parse? (pretty value) = some value :=
  parse?_of_scans plain (plain.scans_pretty 0)

/-- The end of the line behind a value counts for nothing. -/
theorem parse?_line {value : Json} (plain : Plain value) :
    parse? (pretty value ++ "\n") = some value := by
  have feed : Token.isSpace '\n' = true := rfl
  have scans := (plain.scans_pretty 0).append (.space feed .nil) (apart_of_space feed [])
  rw [List.append_nil] at scans
  exact parse?_of_scans plain (by simpa [pretty] using scans)

end Json
end Retention
