import Mathlib.Data.List.Forall2
import Retention.Proofs.Toml.Value
import Retention.Toml.Document

/-!
The lines of a document are read back as its statements. A table of plain values and further tables is
written as a section for each table that has a header or values of its own.
-/
namespace Retention.Toml

variable {rest : List Char}

/-! Single lines. -/

/-- The line of an entry. -/
def pairText (entry : String × Toml) : String := keyText entry.1 ++ " = " ++ valueText entry.2

theorem pairTexts_eq (entries : List (String × Toml)) : pairTexts entries = entries.map pairText := by
  induction entries with
  | nil => rfl
  | cons entry entries ih => rw [pairTexts, ih, List.map_cons, pairText]

theorem pair?_pairText {entry : String × Toml} (plain : Plain depthLimit entry.2)
    (ends : EndsValue rest) :
    pair? value? ((pairText entry).toList ++ rest) = some ((⟨[], entry.1⟩, entry.2), rest) := by
  obtain ⟨key, value⟩ := entry
  have shape : (pairText (key, value)).toList ++ rest =
      pathText ([] ++ [key]) ++ ' ' :: '=' :: ' ' :: ((valueText value).toList ++ rest) := by
    simp [pairText, pathText]
  have ended : EndsKey (' ' :: '=' :: ' ' :: ((valueText value).toList ++ rest)) := by
    rintro _ ⟨⟩
    rfl
  have equals : skipSpaces (' ' :: '=' :: ' ' :: ((valueText value).toList ++ rest)) =
    '=' :: ' ' :: ((valueText value).toList ++ rest) := rfl
  have key := key?_pathText [] key (by decide) ended (by rw [equals]; simp)
  have blank : ∀ c ∈ [' '], isSpace c = true := List.all_eq_true.mp rfl
  have gap : skipSpaces (' ' :: ((valueText value).toList ++ rest)) = (valueText value).toList ++ rest :=
    skipSpaces_run blank fun c first => (plain.begins c first).1
  rw [equals] at key
  have found := plain.finds rest ends
  rw [shape, pair?, key]
  simp only [Option.bind_eq_bind, Option.bind_some, gap, value?, found]
  rfl

theorem pairText_cons (entry : String × Toml) :
    ∃ c more, (pairText entry).toList = c :: more ∧ opensKey c = true := by
  obtain ⟨c, more, shape, opens⟩ := keyText_cons entry.1
  exact ⟨c, _, by simp [pairText, shape]; rfl, opens⟩

/-- A line that is read as a statement. -/
structure States (line : String) (statement : Statement) : Prop where
  read : ∀ rest, Statement.read? (line.toList ++ '\n' :: rest) = some (statement, rest)
  opens : ∃ c more, line.toList = c :: more ∧ (opensKey c = true ∨ c = '[')

theorem states_pair {entry : String × Toml} (plain : Plain depthLimit entry.2) :
    States (pairText entry) (.pair ⟨[], entry.1⟩ entry.2) := by
  obtain ⟨c, more, shape, opens⟩ := pairText_cons entry
  refine ⟨fun rest => ?_, c, more, shape, .inl opens⟩
  have ends : EndsValue ('\n' :: rest) := endsValue_of_mem (by simp)
  have read := pair?_pairText plain ends
  have mark := not_mem_of_opensKey opens
  rw [shape, List.cons_append] at read ⊢
  unfold Statement.read?
  split
  · simp_all
  · simp_all
  · rw [read]
    simp [lineEnd?_feed]

theorem pathText_opens (first : String) (more : List String) :
    ∃ c later, pathText (first :: more) = c :: later ∧ opensKey c = true := by
  obtain ⟨c, later, shape, opens⟩ := keyText_cons first
  cases more with
  | nil => exact ⟨c, later, by simp [pathText, shape], opens⟩
  | cons second more => exact ⟨c, _, by rw [pathText_cons, shape, List.cons_append], opens⟩

theorem toList_headerText (path : List String) :
    (headerText path).toList = '[' :: (pathText path ++ [']']) := by
  simp [headerText, pathText, String.toList_intercalate, Function.comp_def]

theorem states_header (path : List String) (name : String) (few : path.length < depthLimit) :
    States (headerText (path ++ [name])) (.table ⟨path, name⟩) := by
  refine ⟨fun rest => ?_, '[', _, toList_headerText _, .inr rfl⟩
  have ended : EndsKey (']' :: '\n' :: rest) := by
    rintro _ ⟨⟩
    rfl
  have key := key?_pathText path name few ended (by simp [skipSpaces, isSpace])
  obtain ⟨first, more, parts⟩ := List.exists_cons_of_ne_nil
    (List.append_ne_nil_of_right_ne_nil path (List.cons_ne_nil name []))
  obtain ⟨c, later, shape, opens⟩ := pathText_opens first more
  have mark := not_mem_of_opensKey opens
  have whole : (headerText (path ++ [name])).toList ++ '\n' :: rest =
      '[' :: (pathText (path ++ [name]) ++ ']' :: '\n' :: rest) := by
    rw [toList_headerText, List.cons_append, List.append_assoc, List.singleton_append]
  rw [whole]
  rw [parts, shape, List.cons_append] at key ⊢
  unfold Statement.read?
  split
  · simp_all
  · rename_i same
    cases same
    rw [key]
    rfl
  · rename_i single
    exact absurd rfl (single _)

/-! Lines of a text. -/

/-- A text of lines, some of them empty, that are read as the statements. -/
inductive Lines : List Char → List Statement → Prop
  | nil : Lines [] []
  | blank {text : List Char} {statements : List Statement} (later : Lines text statements) :
      Lines ('\n' :: text) statements
  | line {line : String} {text : List Char} {statement : Statement} {statements : List Statement}
      (states : States line statement) (later : Lines text statements) :
      Lines (line.toList ++ '\n' :: text) (statement :: statements)

namespace Lines

variable {text : List Char} {statements others : List Statement}

theorem append (first : Lines text statements) (second : Lines rest others) :
    Lines (text ++ rest) (statements ++ others) := by
  induction first with
  | nil => exact second
  | blank later ih => exact .blank ih
  | line states later ih =>
    rw [List.append_assoc]
    exact .line states ih

theorem eq_nil (lines : Lines [] statements) : statements = [] := by
  generalize empty : [] = text at lines
  cases lines with
  | nil => rfl
  | blank later => cases empty
  | line states later => simp at empty

theorem listFrom (lines : Lines text statements) {bound : Nat} (enough : text.length < bound) :
    Statement.listFrom bound text = some statements := by
  induction lines generalizing bound with
  | nil =>
    obtain ⟨bound, rfl⟩ := Nat.exists_eq_add_one_of_ne_zero (Nat.ne_zero_of_lt enough)
    rfl
  | blank later ih =>
    -- No statement comes of an empty line, so the same bound serves behind it.
    have inner := ih (Nat.lt_of_succ_lt enough)
    obtain ⟨bound, rfl⟩ := Nat.exists_eq_add_one_of_ne_zero (Nat.ne_zero_of_lt enough)
    rw [Statement.listFrom, skipLines_feed]
    rwa [Statement.listFrom] at inner
  | line states later ih =>
    obtain ⟨bound, rfl⟩ := Nat.exists_eq_add_one_of_ne_zero (Nat.ne_zero_of_lt enough)
    rename_i line text statement statements
    have inner := @ih bound (by
      rw [List.length_append, List.length_cons] at enough
      omega)
    obtain ⟨c, more, shape, opens⟩ := states.opens
    have mark : c ∉ [' ', '\t', '\n', '\r', '#'] := by
      rcases opens with key | rfl
      · have mark := not_mem_of_opensKey key
        simp_all
      · decide
    have begins : Begins (line.toList ++ '\n' :: text) := by
      rw [shape]
      rintro _ ⟨⟩
      simp only [List.mem_cons, not_or] at mark
      simp [isSpace, mark]
    have kept := @Begins.skipLines [] _ (by simp) begins
    rw [List.nil_append] at kept
    have comment := begins.skipComment
    have read := states.read text
    rw [Statement.listFrom, kept]
    rw [shape, List.cons_append] at comment read ⊢
    simp [comment, read, inner]

theorem list? (lines : Lines text statements) : Statement.list? text = some statements := by
  have marked : ∀ more, text ≠ '\uFEFF' :: more := by
    rintro more rfl
    generalize shape : '\uFEFF' :: more = marked at lines
    cases lines with
    | nil => cases shape
    | blank later => cases shape
    | line states later =>
      obtain ⟨c, _, start, opens⟩ := states.opens
      rw [start] at shape
      cases shape
      rcases opens with key | bracket
      · exact not_mem_of_opensKey key (by simp)
      · exact absurd bracket (by decide)
  unfold Statement.list?
  split
  · exact absurd rfl (marked _)
  · exact lines.listFrom (Nat.lt_succ_self _)

theorem unlines {lines : List String} (states : List.Forall₂ States lines statements) :
    Lines (Text.unlines lines).toList statements := by
  induction states with
  | nil => exact .nil
  | cons first _ ih =>
    have shape := Lines.line first ih
    simpa [Text.unlines] using shape

end Lines

/-! Sections. -/

/-- Sections that are read as the statements. -/
def Sections (sections : List (List String)) (statements : List Statement) : Prop :=
  ∃ grouped, List.Forall₂ (List.Forall₂ States) sections grouped ∧ grouped.flatten = statements

namespace Sections

variable {sections others : List (List String)} {statements more : List Statement}

theorem nil : Sections [] [] := ⟨[], .nil, rfl⟩

theorem cons {lines : List String} {own : List Statement} (first : List.Forall₂ States lines own)
    (later : Sections sections statements) : Sections (lines :: sections) (own ++ statements) := by
  obtain ⟨grouped, each, rfl⟩ := later
  exact ⟨own :: grouped, .cons first each, rfl⟩

theorem append (first : Sections sections statements) (second : Sections others more) :
    Sections (sections ++ others) (statements ++ more) := by
  obtain ⟨grouped, each, rfl⟩ := first
  obtain ⟨rest, later, rfl⟩ := second
  exact ⟨grouped ++ rest, List.rel_append each later, List.flatten_append⟩

/-- Empty lines between the sections say nothing, and neither do sections without lines. -/
theorem lines (told : Sections sections statements) :
    Lines ("\n".intercalate ((sections.filter fun lines => !lines.isEmpty).map Text.unlines)).toList
      statements := by
  obtain ⟨grouped, each, rfl⟩ := told
  induction each with
  | nil => exact .nil
  | @cons lines own sections grouped first later ih =>
    cases lines with
    | nil =>
      cases first
      exact ih
    | cons line lines =>
      have here := Lines.unlines first
      rw [List.filter_cons_of_pos rfl, List.map_cons]
      cases others : sections.filter fun lines => !lines.isEmpty with
      | nil =>
        rw [others] at ih
        have none := ih.eq_nil
        simpa [none] using here
      | cons second more =>
        rw [others] at ih
        have whole := here.append (.blank ih)
        simpa using whole

end Sections

/-! Tables. -/

/-- A table of plain values and of such tables, with distinct keys and at most so many tables in each
other. -/
inductive Tree : Nat → Toml → Prop
  | leaf {depth : Nat} {value : Toml} (plain : Plain depthLimit value) : Tree depth value
  | table {depth : Nat} {entries : List (String × Toml)} (distinct : (entries.map Prod.fst).Nodup)
      (each : ∀ entry ∈ entries, Tree depth entry.2) : Tree (depth + 1) (.table entries)

def values (entries : List (String × Toml)) : List (String × Toml) :=
  entries.filter fun entry => !entry.2.isTable

/-- The statements of the lines of a table itself. -/
def ownStatements (path : List String) (entries : List (String × Toml)) : List Statement :=
  let pairs := (values entries).map fun entry => .pair ⟨[], entry.1⟩ entry.2
  if (values entries).isEmpty && !entries.isEmpty then pairs
  else ((Key.ofParts? path).map Statement.table).toList ++ pairs

mutual
def statements (path : List String) : Toml → List Statement
  | .table entries => ownStatements path entries ++ entryStatements path entries
  | _ => []

def entryStatements (path : List String) : List (String × Toml) → List Statement
  | [] => []
  | (key, value) :: entries => statements (path ++ [key]) value ++ entryStatements path entries
end

theorem Plain.isTable {depth : Nat} {value : Toml} (plain : Plain depth value) :
    value.isTable = false := by
  cases plain <;> rfl

theorem Tree.plain {depth : Nat} {value : Toml} (tree : Tree depth value)
    (single : value.isTable = false) : Plain depthLimit value := by
  cases tree with
  | leaf plain => exact plain
  | table distinct each => cases single

theorem states_ownLines {path : List String} {entries : List (String × Toml)}
    (few : path.length ≤ depthLimit) (each : ∀ entry ∈ values entries, Plain depthLimit entry.2) :
    List.Forall₂ States (ownLines path entries) (ownStatements path entries) := by
  have pairs : List.Forall₂ States ((values entries).map pairText)
      ((values entries).map fun entry => .pair ⟨[], entry.1⟩ entry.2) := by
    rw [List.forall₂_map_left_iff, List.forall₂_map_right_iff]
    exact List.forall₂_same.mpr fun entry member => states_pair (each entry member)
  have none : ((values entries).map pairText).isEmpty = (values entries).isEmpty := List.isEmpty_map
  unfold ownLines ownStatements
  rw [← values, pairTexts_eq]
  simp only [none]
  rcases List.eq_nil_or_concat' path with rfl | ⟨path, name, rfl⟩
  · simpa [Key.ofParts?] using pairs
  · have inner : path.length < depthLimit := by rwa [List.length_append] at few
    have outside : (path ++ [name]).isEmpty = false := by simp
    simp only [outside, Bool.false_or, ofParts?_concat, Option.map_some, Option.toList_some]
    split
    · exact pairs
    · exact .cons (states_header path name inner) pairs

theorem Tree.sections {depth : Nat} {value : Toml} (tree : Tree depth value) (path : List String)
    (few : path.length + depth ≤ depthLimit + 1) :
    Sections (sections path value) (statements path value) := by
  induction tree generalizing path with
  | leaf plain => cases plain <;> exact .nil
  | @table depth entries distinct each ih =>
    have plain : ∀ entry ∈ values entries, Plain depthLimit entry.2 := by
      intro entry member
      obtain ⟨inside, single⟩ := List.mem_filter.mp member
      exact (each entry inside).plain (by simpa using single)
    have later : Sections (entrySections path entries) (entryStatements path entries) := by
      clear plain distinct each
      induction entries with
      | nil => exact .nil
      | cons entry entries inner =>
        obtain ⟨first, others⟩ := List.forall_mem_cons.mp ih
        rw [entrySections, entryStatements]
        refine (first _ ?_).append (inner others)
        rw [List.length_append, List.length_singleton]
        omega
    rw [Toml.sections, statements]
    exact .cons (states_ownLines (by omega) plain) later

theorem list?_document {table : Toml} (tree : Tree (depthLimit + 1) table) :
    Statement.list? (document table ++ "\n").toList = some (statements [] table) := by
  have lines := (tree.sections [] (by simp)).lines.append (.blank .nil)
  rw [List.append_nil] at lines
  rw [String.toList_append]
  exact lines.list?

end Retention.Toml
