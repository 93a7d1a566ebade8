import Retention.Proofs.Toml.Tree
import Retention.Toml.Print

/-!
What every document that was read is like: its integers have 64 bits, so that it can be written, and no
table has two entries under one key, so that it does not matter which of them counts. The reader sees to
both, for single values and for tables that are filled statement by statement.
-/
namespace Retention.Toml

/-- Integers have 64 bits, and the keys of each table are apart. -/
inductive WellFormed : Toml → Prop
  | str (value : String) : WellFormed (.str value)
  | int {value : Int} (low : Int64.minValue.toInt ≤ value) (high : value ≤ Int64.maxValue.toInt) :
      WellFormed (.int value)
  | float (spelling : String) : WellFormed (.float spelling)
  | bool (value : Bool) : WellFormed (.bool value)
  | moment (spelling : String) : WellFormed (.moment spelling)
  | array {items : List Toml} (each : ∀ item ∈ items, WellFormed item) : WellFormed (.array items)
  | table {entries : List (String × Toml)} (apart : (entries.map Prod.fst).Nodup)
      (each : ∀ entry ∈ entries, WellFormed entry.2) : WellFormed (.table entries)

theorem wellFormed_array {items : List Toml} :
    WellFormed (.array items) ↔ ∀ item ∈ items, item.WellFormed := by
  refine ⟨fun whole => ?_, .array⟩
  cases whole with
  | array each => exact each

theorem wellFormed_table {entries : List (String × Toml)} :
    WellFormed (.table entries) ↔
      (entries.map Prod.fst).Nodup ∧ ∀ entry ∈ entries, entry.2.WellFormed := by
  refine ⟨fun whole => ?_, fun ⟨apart, each⟩ => .table apart each⟩
  cases whole with
  | table apart each => exact ⟨apart, each⟩

theorem entriesWritable_iff {entries : List (String × Toml)} :
    entriesWritable entries = true ↔ ∀ entry ∈ entries, entry.2.isWritable = true := by
  induction entries with
  | nil => simp [entriesWritable]
  | cons entry entries ih => rw [entriesWritable, Bool.and_eq_true, ih, List.forall_mem_cons]

theorem areWritable_iff {items : List Toml} :
    areWritable items = true ↔ ∀ item ∈ items, item.isWritable = true := by
  induction items with
  | nil => simp [areWritable]
  | cons item items ih => rw [areWritable, Bool.and_eq_true, ih, List.forall_mem_cons]

theorem WellFormed.isWritable {value : Toml} (formed : value.WellFormed) : value.isWritable = true := by
  induction formed with
  | int low high => simpa [Toml.isWritable] using ⟨low, high⟩
  | array _ ih => rwa [Toml.isWritable, areWritable_iff]
  | table _ _ ih => rwa [Toml.isWritable, entriesWritable_iff]
  | str | float | bool | moment => rfl

/-! Values. -/

/-- Whatever is read is well-formed. -/
def Sound (read : Reader) : Prop :=
  ∀ text value rest, read text = some (value, rest) → value.WellFormed

namespace Scalar

theorem wellFormed_integer? {word : List Char} {value : Int} (read : integer? word = some value) :
    WellFormed (.int value) := by
  obtain ⟨magnitude, -, read⟩ := Option.bind_eq_some_iff.mp read
  split at read
  all_goals
    obtain ⟨bounds, same⟩ := Option.ite_none_right_eq_some.mp read
    cases same
    exact .int bounds.1 bounds.2

theorem wellFormed_ofWord? {word : List Char} {value : Toml} (read : ofWord? word = some value) :
    value.WellFormed := by
  unfold ofWord? at read
  split at read
  · cases read
    exact .bool true
  split at read
  · cases read
    exact .bool false
  split at read
  · cases read
    exact .moment _
  split at read
  · rename_i found
    cases read
    exact wellFormed_integer? found
  split at read
  · cases read
    exact .float _
  · cases read

theorem sound_any? : Sound any? := by
  intro text value rest read
  unfold any? at read
  dsimp only at read
  split at read
  · split at read
    · split at read
      · cases read
        exact .moment _
      split at read
      · cases read
        exact .moment _
      · cases read
    · cases read
      exact .moment _
  · obtain ⟨found, told, same⟩ := Option.map_eq_some_iff.mp read
    cases same
    exact wellFormed_ofWord? told

end Scalar

theorem wellFormed_itemsFrom {read : Reader} (sound : Sound read) {bound : Nat} {text rest : List Char}
    {items : List Toml} (found : itemsFrom read bound text = some (items, rest)) :
    ∀ item ∈ items, item.WellFormed := by
  induction bound generalizing text items with
  | zero => cases found
  | succ bound ih =>
    rw [itemsFrom] at found
    split at found
    · cases found
      simp
    obtain ⟨⟨item, after⟩, first, found⟩ := Option.bind_eq_some_iff.mp found
    have head := sound _ _ _ first
    dsimp only at found
    split at found
    · obtain ⟨⟨others, last⟩, later, same⟩ := Option.map_eq_some_iff.mp found
      cases same
      exact List.forall_mem_cons.mpr ⟨head, ih later⟩
    · cases found
      exact List.forall_mem_singleton.mpr head
    · cases found

/-! Tables. -/

theorem entryValues_eq (entries : Entries) :
    entryValues entries = entries.map fun entry => (entry.1, entry.2.value) := by
  induction entries with
  | nil => rfl
  | cons entry entries ih => rw [entryValues, ih, List.map_cons]

theorem tableValues_eq (tables : List Entries) :
    tableValues tables = tables.map fun entries => .table (entryValues entries) := by
  induction tables with
  | nil => rfl
  | cons entries tables ih => rw [tableValues, ih, List.map_cons]

namespace Entries

/-- The keys are apart, and all values are well-formed. -/
structure WellFormed (entries : Entries) : Prop where
  apart : entries.keys.Nodup
  each : ∀ entry ∈ entries, entry.2.value.WellFormed

theorem wellFormed_nil : WellFormed [] := ⟨.nil, by simp⟩

theorem wellFormed_cons {key : String} {node : Node} {entries : Entries} :
    WellFormed ((key, node) :: entries) ↔
      key ∉ entries.keys ∧ node.value.WellFormed ∧ WellFormed entries := by
  constructor
  · rintro ⟨apart, each⟩
    obtain ⟨fresh, others⟩ := List.nodup_cons.mp apart
    obtain ⟨first, rest⟩ := List.forall_mem_cons.mp each
    exact ⟨fresh, first, others, rest⟩
  · rintro ⟨fresh, first, others, rest⟩
    exact ⟨List.nodup_cons.mpr ⟨fresh, others⟩, List.forall_mem_cons.mpr ⟨first, rest⟩⟩

theorem wellFormed_values {entries : Entries} :
    (Toml.table (entryValues entries)).WellFormed ↔ WellFormed entries := by
  rw [wellFormed_table, entryValues_eq, List.map_map, List.forall_mem_map]
  exact ⟨fun ⟨apart, each⟩ => ⟨apart, each⟩, fun ⟨apart, each⟩ => ⟨apart, each⟩⟩

theorem wellFormed_tableNode {origin : Origin} {entries : Entries} :
    (Node.table origin entries).value.WellFormed ↔ WellFormed entries := by
  rw [Node.value, wellFormed_values]

theorem wellFormed_tablesNode {earlier : List Entries} {last : Entries} :
    (Node.tables earlier last).value.WellFormed ↔
      (∀ entries ∈ earlier, WellFormed entries) ∧ WellFormed last := by
  rw [Node.value, wellFormed_array, List.forall_mem_append, List.forall_mem_singleton, wellFormed_values,
    tableValues_eq, List.forall_mem_map]
  simp only [wellFormed_values]

/-- A change of entries that keeps them well-formed. -/
def Keeps (f : Origin → Entries → Option Entries) : Prop :=
  ∀ origin entries changed, WellFormed entries → f origin entries = some changed → WellFormed changed

/-- What is put under a key brings no other key along. -/
theorem mem_keys_of_adjust {key : String} {f : Option Node → Option Node} {entries changed : Entries}
    (adjusted : adjust key f entries = some changed) {name : String} (member : name ∈ changed.keys) :
    name = key ∨ name ∈ entries.keys := by
  induction entries generalizing changed with
  | nil =>
    obtain ⟨node, -, same⟩ := Option.map_eq_some_iff.mp adjusted
    cases same
    exact .inl (List.mem_singleton.mp member)
  | cons entry entries ih =>
    rw [adjust] at adjusted
    split at adjusted
    · obtain ⟨node, -, same⟩ := Option.map_eq_some_iff.mp adjusted
      cases same
      exact .inr member
    · obtain ⟨later, made, same⟩ := Option.map_eq_some_iff.mp adjusted
      cases same
      rcases List.mem_cons.mp member with rfl | behind
      · exact .inr List.mem_cons_self
      · exact (ih made behind).imp_right (List.mem_cons_of_mem _)

theorem wellFormed_adjust {key : String} {f : Option Node → Option Node} {entries changed : Entries}
    (each : ∀ found node, (∀ old, found = some old → old.value.WellFormed) →
      f found = some node → node.value.WellFormed)
    (formed : WellFormed entries) (adjusted : adjust key f entries = some changed) :
    WellFormed changed := by
  induction entries generalizing changed with
  | nil =>
    obtain ⟨node, made, same⟩ := Option.map_eq_some_iff.mp adjusted
    cases same
    exact wellFormed_cons.mpr ⟨List.not_mem_nil, each none node (by simp) made, wellFormed_nil⟩
  | cons entry entries ih =>
    obtain ⟨name, node⟩ := entry
    obtain ⟨fresh, first, others⟩ := wellFormed_cons.mp formed
    rw [adjust] at adjusted
    split at adjusted
    · obtain ⟨node, made, same⟩ := Option.map_eq_some_iff.mp adjusted
      cases same
      exact wellFormed_cons.mpr ⟨fresh, each _ node (by rintro _ ⟨⟩; exact first) made, others⟩
    · rename_i other
      obtain ⟨later, made, same⟩ := Option.map_eq_some_iff.mp adjusted
      cases same
      refine wellFormed_cons.mpr ⟨fun member => ?_, first, ih others made⟩
      exact (mem_keys_of_adjust made member).elim other fresh

theorem keeps_within {f : Origin → Entries → Option Entries} (keeps : Keeps f) (dotted : Bool)
    (path : List String) : Keeps (within dotted f path) := by
  induction path with
  | nil => exact keeps
  | cons key path ih =>
    intro origin entries changed formed found
    rw [within] at found
    refine wellFormed_adjust (fun old node before made => ?_) formed found
    dsimp only at made
    -- What the path comes to: nothing yet, a plain value, a table, or a list of tables.
    split at made
    · obtain ⟨inner, told, same⟩ := Option.map_eq_some_iff.mp made
      cases same
      exact wellFormed_tableNode.mpr (ih _ _ _ wellFormed_nil told)
    · cases made
    · split at made
      · cases made
      · obtain ⟨inner, told, same⟩ := Option.map_eq_some_iff.mp made
        cases same
        exact wellFormed_tableNode.mpr (ih _ _ _ (wellFormed_tableNode.mp (before _ rfl)) told)
    · obtain ⟨inner, told, same⟩ := Option.map_eq_some_iff.mp made
      cases same
      obtain ⟨earlier, last⟩ := wellFormed_tablesNode.mp (before _ rfl)
      exact wellFormed_tablesNode.mpr ⟨earlier, ih _ _ _ last told⟩

theorem keeps_setValue (path : List String) (key : String) {value : Toml} (formed : value.WellFormed) :
    Keeps fun origin entries => setValue path key value origin entries := by
  refine keeps_within (fun origin entries changed before found => ?_) true path
  split at found
  · cases found
  · refine wellFormed_adjust (fun old node _ made => ?_) before found
    split at made
    · cases made
      exact formed
    · cases made

theorem keeps_openTable (path : List String) (key : String) :
    Keeps fun _ entries => openTable path key entries := by
  intro _ entries changed before found
  refine keeps_within (fun origin entries changed before found => ?_) false path _ _ _ before found
  refine wellFormed_adjust (fun old node before made => ?_) before found
  split at made
  · cases made
    exact wellFormed_tableNode.mpr wellFormed_nil
  · cases made
    exact wellFormed_tableNode.mpr (wellFormed_tableNode.mp (before _ rfl))
  · cases made

theorem keeps_openElement (path : List String) (key : String) :
    Keeps fun _ entries => openElement path key entries := by
  intro _ entries changed before found
  refine keeps_within (fun origin entries changed before found => ?_) false path _ _ _ before found
  refine wellFormed_adjust (fun old node before made => ?_) before found
  split at made
  · cases made
    exact wellFormed_tablesNode.mpr ⟨by simp, wellFormed_nil⟩
  · cases made
    obtain ⟨earlier, last⟩ := wellFormed_tablesNode.mp (before _ rfl)
    have all := List.forall_mem_append.mpr ⟨earlier, List.forall_mem_singleton.mpr last⟩
    exact wellFormed_tablesNode.mpr ⟨all, wellFormed_nil⟩
  · cases made

end Entries

theorem wellFormed_pair? {read : Reader} (sound : Sound read) {text rest : List Char}
    {pair : Key × Toml} (found : pair? read text = some (pair, rest)) : pair.2.WellFormed := by
  obtain ⟨⟨key, after⟩, -, found⟩ := Option.bind_eq_some_iff.mp found
  dsimp only at found
  split at found
  · obtain ⟨⟨value, last⟩, told, same⟩ := Option.bind_eq_some_iff.mp found
    cases same
    exact sound _ _ _ told
  · cases found

theorem wellFormed_pairsFrom {read : Reader} (sound : Sound read) {bound : Nat} {text rest : List Char}
    {entries whole : Entries} (formed : entries.WellFormed)
    (found : pairsFrom read entries bound text = some (whole, rest)) : whole.WellFormed := by
  induction bound generalizing text entries with
  | zero => cases found
  | succ bound ih =>
    obtain ⟨⟨⟨key, value⟩, after⟩, pair, found⟩ := Option.bind_eq_some_iff.mp found
    obtain ⟨next, set, found⟩ := Option.bind_eq_some_iff.mp found
    have kept := Entries.keeps_setValue key.path key.name (wellFormed_pair? sound pair) _ _ _ formed set
    split at found
    · exact ih kept found
    · cases found
      exact kept
    · cases found

/-- A value is as sound as the values one level further in. -/
theorem sound_level {depth : Nat} (inner : ∀ below, depth = below + 1 → Sound (valueFrom below)) :
    Sound (valueFrom depth) := by
  intro text value rest found
  rw [valueFrom.eq_def] at found
  split at found
  case h_2 => cases found
  split at found
  · obtain ⟨_, -, same⟩ := Option.map_eq_some_iff.mp found
    cases same
    exact .str _
  split at found
  · split at found
    · cases found
    · obtain ⟨_, told, same⟩ := Option.map_eq_some_iff.mp found
      cases same
      exact .array (wellFormed_itemsFrom (inner _ rfl) told)
  split at found
  · split at found
    · cases found
    · dsimp only [inlineTable?] at found
      split at found
      · cases found
        exact .table .nil (by simp)
      · obtain ⟨_, told, same⟩ := Option.map_eq_some_iff.mp found
        cases same
        exact Entries.wellFormed_values.mpr
          (wellFormed_pairsFrom (inner _ rfl) Entries.wellFormed_nil told)
  · exact Scalar.sound_any? _ _ _ found

theorem sound_valueFrom (depth : Nat) : Sound (valueFrom depth) := by
  induction depth with
  | zero => exact sound_level fun _ none => by cases none
  | succ depth ih =>
    refine sound_level fun below same => ?_
    cases same
    exact ih

/-! Documents. -/

/-- The value that a statement sets is well-formed. -/
def Statement.WellFormed : Statement → Prop
  | .pair _ value => value.WellFormed
  | _ => True

theorem Statement.wellFormed_read? {text rest : List Char} {statement : Statement}
    (read : read? text = some (statement, rest)) : statement.WellFormed := by
  unfold read? at read
  split at read
  · obtain ⟨_, -, read⟩ := Option.bind_eq_some_iff.mp read
    obtain ⟨_, -, same⟩ := Option.bind_eq_some_iff.mp read
    cases same
    trivial
  · obtain ⟨_, -, read⟩ := Option.bind_eq_some_iff.mp read
    obtain ⟨_, -, same⟩ := Option.bind_eq_some_iff.mp read
    cases same
    trivial
  · obtain ⟨_, pair, read⟩ := Option.bind_eq_some_iff.mp read
    obtain ⟨_, -, same⟩ := Option.bind_eq_some_iff.mp read
    cases same
    exact wellFormed_pair? (sound_valueFrom depthLimit) pair

theorem Statement.wellFormed_listFrom {bound : Nat} {text : List Char} {statements : List Statement}
    (read : listFrom bound text = some statements) : ∀ statement ∈ statements, statement.WellFormed := by
  induction bound generalizing text statements with
  | zero => cases read
  | succ bound ih =>
    rw [listFrom] at read
    split at read
    · cases read
      simp
    split at read
    · cases read
      simp
    obtain ⟨⟨statement, rest⟩, first, read⟩ := Option.bind_eq_some_iff.mp read
    obtain ⟨others, later, same⟩ := Option.bind_eq_some_iff.mp read
    cases same
    exact List.forall_mem_cons.mpr ⟨wellFormed_read? first, ih later⟩

theorem Document.wellFormed_extend {document next : Document} {statement : Statement}
    (formed : document.entries.WellFormed) (told : statement.WellFormed)
    (extended : document.extend statement = some next) : next.entries.WellFormed := by
  cases statement with
  | pair key value =>
    obtain ⟨entries, found, same⟩ := Option.bind_eq_some_iff.mp extended
    cases same
    exact Entries.keeps_within (Entries.keeps_setValue key.path key.name told) false _ _ _ _ formed found
  | table key =>
    obtain ⟨entries, found, same⟩ := Option.bind_eq_some_iff.mp extended
    cases same
    exact Entries.keeps_openTable key.path key.name .header _ _ formed found
  | element key =>
    obtain ⟨entries, found, same⟩ := Option.bind_eq_some_iff.mp extended
    cases same
    exact Entries.keeps_openElement key.path key.name .header _ _ formed found

theorem Document.wellFormed_foldlM {statements : List Statement} {document last : Document}
    (formed : document.entries.WellFormed) (told : ∀ statement ∈ statements, statement.WellFormed)
    (extended : statements.foldlM extend document = some last) : last.entries.WellFormed := by
  induction statements generalizing document with
  | nil =>
    cases extended
    exact formed
  | cons statement statements ih =>
    obtain ⟨first, others⟩ := List.forall_mem_cons.mp told
    obtain ⟨next, one, rest⟩ := Option.bind_eq_some_iff.mp extended
    exact ih (wellFormed_extend formed first one) others rest

theorem wellFormed_of_parse? {text : String} {document : Toml} (parsed : parse? text = some document) :
    document.WellFormed := by
  obtain ⟨statements, read, parsed⟩ := Option.bind_eq_some_iff.mp parsed
  obtain ⟨last, extended, same⟩ := Option.bind_eq_some_iff.mp parsed
  cases same
  exact Entries.wellFormed_values.mpr
    (Document.wellFormed_foldlM Entries.wellFormed_nil (Statement.wellFormed_listFrom read) extended)

end Retention.Toml
