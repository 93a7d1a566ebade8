import Retention.Proofs.Settings
import Retention.Proofs.Toml.WellFormed
import Retention.Proofs.Toml.Tree

/-!
Settings that were loaded can be shown: their numbers come from a file or are the standard ones, so that
each is an integer of TOML. The shown text has the sections of the settings.
-/
namespace Retention

/-! Numbers. -/

namespace Toml

/-- The word is an integer of TOML. -/
def FitsInteger (word : UInt64) : Prop := (word.toNat : Int) ≤ Int64.maxValue.toInt

instance (word : UInt64) : Decidable (FitsInteger word) :=
  inferInstanceAs (Decidable ((word.toNat : Int) ≤ _))

theorem fitsInteger_of_word64? {value : Toml} {word : UInt64} (writable : value.isWritable = true)
    (read : word64? value = some word) : FitsInteger word := by
  unfold word64? at read
  split at read
  · rename_i number
    obtain ⟨small, same⟩ := Option.ite_none_right_eq_some.mp read
    cases same
    simp only [isWritable, Bool.and_eq_true, decide_eq_true_eq] at writable
    rw [FitsInteger, UInt64.toNat_ofNat_of_lt' small]
    exact writable.2
  · cases read

theorem isWritable_fields? {value : Toml} {names : List String} {fields : List (Option Toml)}
    (writable : value.isWritable = true) (found : value.fields? names = some fields) {field : Toml}
    (member : some field ∈ fields) : field.isWritable = true := by
  unfold fields? at found
  split at found
  · cases found
    obtain ⟨name, -, told⟩ := List.mem_map.mp member
    obtain ⟨before, after, split, -⟩ := List.lookup_eq_some_iff.mp told
    rw [isWritable, entriesWritable_iff] at writable
    exact writable (name, field) (by simp [split])
  · cases found
    simp at member
  · rename_i items
    obtain ⟨-, same⟩ := Option.ite_none_right_eq_some.mp found
    cases same
    rw [isWritable, areWritable_iff] at writable
    obtain ⟨item, inside, told⟩ := List.mem_map.mp member
    cases told
    exact writable field (List.mem_of_mem_take inside)
  · cases found

theorem fitsInteger_optional {fields : List (Option Toml)} {field : Option Toml}
    {found : Option UInt64} (writable : ∀ value, some value ∈ fields → value.isWritable = true)
    (member : field ∈ fields) (read : optional word64? field = some found) :
    ∀ word ∈ found, FitsInteger word := by
  rintro word rfl
  cases field with
  | none => cases read
  | some value =>
    obtain ⟨_, told, same⟩ := Option.map_eq_some_iff.mp read
    cases same
    exact fitsInteger_of_word64? (writable value member) told

end Toml

namespace FileSettings

open Toml

theorem isWritable_sectionFields {names : List String} {value : Option Toml}
    {fields : List (Option Toml)} (writable : ∀ whole, value = some whole → whole.isWritable = true)
    (found : sectionFields names value = some fields) :
    ∀ field, some field ∈ fields → field.isWritable = true := by
  intro field member
  cases value with
  | none =>
    cases found
    simp at member
  | some whole => exact isWritable_fields? (writable whole rfl) found member

/-- All numbers of a file are integers of TOML. -/
structure IsExact (file : FileSettings) : Prop where
  workers : ∀ word ∈ file.workers, FitsInteger word
  maxAgeDays : ∀ word ∈ file.maxAgeDays, FitsInteger word
  kinds : ∀ entry ∈ file.kinds.entries, ∀ word ∈ entry.2.maxAgeDays, FitsInteger word
  hookSeconds : ∀ word ∈ file.hookSeconds, FitsInteger word
  waitSeconds : ∀ word ∈ file.waitSeconds, FitsInteger word

theorem fitsInteger_kind {value : Toml} {settings : KindSettings} (writable : value.isWritable = true)
    (read : KindSettings.ofToml? value = some settings) :
    ∀ word ∈ settings.maxAgeDays, FitsInteger word := by
  obtain ⟨fields, found, read⟩ := Option.bind_eq_some_iff.mp read
  split at read
  case h_2 => cases read
  split at read
  · cases read
  · obtain ⟨_, -, read⟩ := Option.bind_eq_some_iff.mp read
    obtain ⟨_, told, same⟩ := Option.bind_eq_some_iff.mp read
    cases same
    exact fitsInteger_optional (fun _ => isWritable_fields? writable found) (by simp) told

theorem fitsInteger_cleanup? {value : Option Toml} {maxAgeDays : Option UInt64}
    {kinds : Dictionary KindSettings} (writable : ∀ whole, value = some whole → whole.isWritable = true)
    (read : cleanup? value = some (maxAgeDays, kinds)) :
    (∀ word ∈ maxAgeDays, FitsInteger word) ∧
    ∀ entry ∈ kinds.entries, ∀ word ∈ entry.2.maxAgeDays, FitsInteger word := by
  unfold cleanup? at read
  split at read
  · cases read
    exact ⟨by simp, fun _ member => absurd member List.not_mem_nil⟩
  · rename_i entries
    have each := writable _ rfl
    rw [isWritable, entriesWritable_iff] at each
    obtain ⟨threshold, general, read⟩ := Option.bind_eq_some_iff.mp read
    obtain ⟨found, mapped, same⟩ := Option.bind_eq_some_iff.mp read
    cases same
    constructor
    · have alone : (table entries).fields? [thresholdKey] = some [entries.lookup thresholdKey] := rfl
      exact fitsInteger_optional (fun _ => isWritable_fields? (writable _ rfl) alone) (by simp) general
    · intro entry member
      obtain ⟨source, inside, told⟩ := exists_of_mem_mapM mapped (Dictionary.mem_of_mem_ofList member)
      obtain ⟨settings, kind, same⟩ := Option.bind_eq_some_iff.mp told
      cases same
      exact fitsInteger_kind (each source (List.mem_filter.mp inside).1) kind
  · cases read

theorem isExact_of_ofToml? {document : Toml} {file : FileSettings}
    (writable : document.isWritable = true) (read : ofToml? document = some file) : file.IsExact := by
  obtain ⟨_, _, _, _, _, whole, ⟨_, _, _, general, -, -, workers⟩, -, -, cleanup, _, _, _, _, executor,
    -, -, timeout, waitTimeout⟩ := ofToml?_eq_some_iff.mp read
  have sections {field : Option Toml} (member : field ∈ _) : ∀ whole, field = some whole →
      whole.isWritable = true := fun value same =>
    isWritable_fields? writable whole (same ▸ member)
  have cleanups := fitsInteger_cleanup? (sections (by simp)) cleanup
  exact {
    workers := fitsInteger_optional (isWritable_sectionFields (sections (by simp)) general) (by simp) workers
    maxAgeDays := cleanups.1
    kinds := cleanups.2
    hookSeconds := fitsInteger_optional (isWritable_sectionFields (sections (by simp)) executor) (by simp) timeout
    waitSeconds := fitsInteger_optional (isWritable_sectionFields (sections (by simp)) executor) (by simp) waitTimeout }

end FileSettings

/-! Shown settings. -/

namespace Toml

theorem forall_mem_entry {α : Type} {key : String} {value : Option α} {f : α → Toml}
    {p : String × Toml → Prop} :
    (∀ item ∈ entry key (value.map f), p item) ↔ ∀ found ∈ value, p (key, f found) := by
  cases value <;> simp [entry]

theorem plain_word {word : UInt64} (fits : FitsInteger word) (depth : Nat) : Plain depth (.word word) :=
  .natural depth fits

theorem tree_word {word : UInt64} (fits : FitsInteger word) (depth : Nat) : Tree depth (.word word) :=
  .leaf (plain_word fits depthLimit)

theorem tree_str (text : String) (depth : Nat) : Tree depth (.str text) := .leaf (.str depthLimit text)

theorem tree_bool (value : Bool) (depth : Nat) : Tree depth (.bool value) := .leaf (.bool depthLimit value)

theorem tree_strings (texts : List String) (depth : Nat) : Tree depth (.array (texts.map .str)) := by
  refine .leaf (@Plain.array 78 _ fun item member => ?_)
  obtain ⟨text, -, rfl⟩ := List.mem_map.mp member
  exact .str 78 text

theorem Plain.isWritable {depth : Nat} {value : Toml} (plain : Plain depth value) :
    value.isWritable = true := by
  induction plain with
  | str depth value => rfl
  | bool depth value => rfl
  | natural depth small =>
    rw [Toml.isWritable, decide_eq_true small, Bool.and_true, decide_eq_true_eq]
    exact Int.le_trans (by decide) (Int.natCast_nonneg _)
  | array each ih => rwa [Toml.isWritable, areWritable_iff]

theorem Tree.isWritable {depth : Nat} {value : Toml} (tree : Tree depth value) :
    value.isWritable = true := by
  induction tree with
  | leaf plain => exact plain.isWritable
  | table distinct each ih => rwa [Toml.isWritable, entriesWritable_iff]

end Toml

namespace Settings

open Toml

/-- All numbers are integers of TOML. -/
structure IsExact (settings : Settings) : Prop where
  workers : FitsInteger settings.workers
  maxAgeDays : FitsInteger settings.maxAgeDays
  kinds : ∀ entry ∈ settings.kinds.entries, ∀ word ∈ entry.2.maxAgeDays, FitsInteger word
  hookSeconds : FitsInteger settings.hookSeconds
  waitSeconds : FitsInteger settings.waitSeconds

theorem fitsInteger_getD {found : Option UInt64} {standard : UInt64}
    (each : ∀ word ∈ found, FitsInteger word) (fits : FitsInteger standard) :
    FitsInteger (found.getD standard) := by
  cases found with
  | none => exact fits
  | some word => exact each word rfl

theorem isExact_merge {file : FileSettings} (exact : file.IsExact) (path : Option Path) :
    (merge file .none path).IsExact where
  workers := fitsInteger_getD exact.workers (by decide : FitsInteger 4)
  maxAgeDays := fitsInteger_getD exact.maxAgeDays (by decide : FitsInteger 30)
  kinds := exact.kinds
  hookSeconds := fitsInteger_getD exact.hookSeconds (by decide : FitsInteger 60)
  waitSeconds := fitsInteger_getD exact.waitSeconds (by decide : FitsInteger 180)

theorem tree_kind {settings : KindSettings} (fits : ∀ word ∈ settings.maxAgeDays, FitsInteger word)
    (depth : Nat) : Tree (depth + 1) settings.toToml := by
  obtain ⟨mode, maxAgeDays⟩ := settings
  refine .table ?_ ?_
  · cases mode <;> cases maxAgeDays <;> simp [entry]
  · rw [List.forall_mem_append, forall_mem_entry, forall_mem_entry]
    exact ⟨fun mode _ => tree_str mode depth, fun word found => tree_word (fits word found) depth⟩

theorem tree_account (account : SecondAccount) (depth : Nat) : Tree (depth + 1) account.toToml := by
  obtain ⟨id, role⟩ := account
  refine .table ?_ ?_
  · cases id <;> simp [entry]
  · rw [List.forall_mem_append, forall_mem_entry, List.forall_mem_singleton]
    exact ⟨fun id _ => tree_str id depth, tree_str role depth⟩

theorem tree_generalSection {settings : Settings} (exact : settings.IsExact) (depth : Nat) :
    Tree (depth + 1) settings.generalSection := by
  refine .table (by simp) ?_
  rw [List.forall_mem_cons, List.forall_mem_cons, List.forall_mem_singleton]
  exact ⟨tree_strings _ depth, tree_bool _ depth, tree_word exact.workers depth⟩

theorem tree_loggingSection (settings : Settings) (depth : Nat) :
    Tree (depth + 1) settings.loggingSection := by
  refine .table (by simp) ?_
  rw [List.forall_mem_cons, List.forall_mem_singleton]
  exact ⟨tree_bool _ depth, tree_bool _ depth⟩

theorem tree_mainAccount (settings : Settings) (depth : Nat) : Tree (depth + 1) settings.mainAccount := by
  refine .table ?_ (forall_mem_entry.mpr fun id _ => tree_str id depth)
  cases settings.mainId <;> simp [entry]

theorem tree_accountsSection (settings : Settings) (depth : Nat) :
    Tree (depth + 2) settings.accountsSection := by
  refine .table ?_ ?_
  · cases settings.second <;> simp [entry]
  · rw [List.forall_mem_append, List.forall_mem_singleton, forall_mem_entry]
    exact ⟨tree_mainAccount settings depth, fun account _ => tree_account account depth⟩

theorem tree_kindsSection {settings : Settings} (exact : settings.IsExact) (depth : Nat) :
    Tree (depth + 2) settings.kindsSection := by
  refine .table ?_ ?_
  · simpa [Function.comp_def] using settings.kinds.nodup_keys
  · rw [List.forall_mem_map]
    exact fun kind member => tree_kind (exact.kinds kind member) depth

theorem tree_cleanupSection {settings : Settings} (exact : settings.IsExact) (depth : Nat) :
    Tree (depth + 3) settings.cleanupSection := by
  refine .table (by simp) ?_
  rw [List.forall_mem_cons, List.forall_mem_singleton]
  exact ⟨tree_word exact.maxAgeDays _, tree_kindsSection exact depth⟩

theorem tree_executorSection {settings : Settings} (exact : settings.IsExact) (depth : Nat) :
    Tree (depth + 1) settings.executorSection := by
  refine .table ?_ ?_
  · cases settings.hookCommand <;> simp [entry]
  · rw [List.forall_mem_append, forall_mem_entry, List.forall_mem_cons, List.forall_mem_singleton]
    exact ⟨fun command _ => tree_str command depth, tree_word exact.hookSeconds depth,
      tree_word exact.waitSeconds depth⟩

theorem tree_toToml {settings : Settings} (exact : settings.IsExact) (depth : Nat) :
    Tree (depth + 4) settings.toToml := by
  rw [toToml_eq]
  refine .table ?_ ?_
  · cases settings.path <;> simp [sections, entry]
  · rw [List.forall_mem_append, forall_mem_entry, sections, List.forall_mem_cons,
      List.forall_mem_cons, List.forall_mem_cons, List.forall_mem_cons, List.forall_mem_singleton]
    exact ⟨⟨tree_generalSection exact _, tree_loggingSection settings _,
      tree_accountsSection settings _, tree_cleanupSection exact depth,
      tree_executorSection exact _⟩, fun path _ => tree_str path.text _⟩

/-! Order. -/

section Order

variable {plain tables : List (String × Toml)}

/-- Plain values go before tables, and tables in order stay as they are. -/
theorem ordered_append (single : ∀ entry ∈ plain, entry.2.isTable = false)
    (each : ∀ entry ∈ tables, entry.2.isTable = true ∧ ordered entry.2 = entry.2) :
    ordered (.table (tables ++ plain)) = .table (plain ++ tables) ∧
      ordered (.table (plain ++ tables)) = .table (plain ++ tables) := by
  have all : values plain = plain :=
    List.filter_eq_self.mpr fun entry member => by rw [single entry member]; rfl
  have none : values tables = [] :=
    List.filter_eq_nil_iff.mpr fun entry member => by simp [(each entry member).1]
  have append (first second : List (String × Toml)) :
      orderedTables (first ++ second) = orderedTables first ++ orderedTables second := by
    induction first with
    | nil => rfl
    | cons entry first ih =>
      rw [List.cons_append, orderedTables, orderedTables, ih]
      split <;> rfl
  have empty : orderedTables plain = [] := by
    clear all
    induction plain with
    | nil => rfl
    | cons entry plain ih =>
      obtain ⟨first, others⟩ := List.forall_mem_cons.mp single
      rw [orderedTables, first, ih others]
      rfl
  have same : orderedTables tables = tables := by
    clear none
    induction tables with
    | nil => rfl
    | cons entry tables ih =>
      obtain ⟨first, others⟩ := List.forall_mem_cons.mp each
      rw [orderedTables, if_pos first.1, first.2, ih others]
  constructor
  · rw [ordered, values, List.filter_append, ← values, ← values, none, all, append, same, empty,
      List.append_nil, List.nil_append]
  · rw [ordered, values, List.filter_append, ← values, ← values, none, all, append, same, empty,
      List.append_nil, List.nil_append]

theorem ordered_plain (single : ∀ entry ∈ plain, entry.2.isTable = false) :
    ordered (.table plain) = .table plain :=
  by simpa using (@ordered_append plain [] single (by simp)).1

theorem ordered_tables
    (each : ∀ entry ∈ tables, entry.2.isTable = true ∧ ordered entry.2 = entry.2) :
    ordered (.table tables) = .table tables :=
  (@ordered_append [] tables (by simp) each).2

end Order

theorem ordered_kind (settings : KindSettings) : ordered settings.toToml = settings.toToml := by
  refine ordered_plain ?_
  rw [List.forall_mem_append, forall_mem_entry, forall_mem_entry]
  exact ⟨fun _ _ => rfl, fun _ _ => rfl⟩

theorem ordered_account (account : SecondAccount) : ordered account.toToml = account.toToml := by
  refine ordered_plain ?_
  rw [List.forall_mem_append, forall_mem_entry, List.forall_mem_singleton]
  exact ⟨fun _ _ => rfl, rfl⟩

theorem ordered_kindsSection (settings : Settings) :
    ordered settings.kindsSection = settings.kindsSection := by
  refine ordered_tables ?_
  rw [List.forall_mem_map]
  exact fun kind _ => ⟨rfl, ordered_kind kind.2⟩

theorem ordered_accountsSection (settings : Settings) :
    ordered settings.accountsSection = settings.accountsSection := by
  refine ordered_tables ?_
  rw [List.forall_mem_append, List.forall_mem_singleton, forall_mem_entry]
  exact ⟨⟨rfl, ordered_plain (forall_mem_entry.mpr fun _ _ => rfl)⟩,
    fun account _ => ⟨rfl, ordered_account account⟩⟩

theorem ordered_cleanupSection (settings : Settings) :
    ordered settings.cleanupSection = settings.cleanupSection :=
  (@ordered_append [("max_age_days", .word settings.maxAgeDays)] [("kinds", settings.kindsSection)]
    (List.forall_mem_singleton.mpr rfl)
    (List.forall_mem_singleton.mpr ⟨rfl, ordered_kindsSection settings⟩)).2

theorem ordered_executorSection (settings : Settings) :
    ordered settings.executorSection = settings.executorSection := by
  refine ordered_plain ?_
  rw [List.forall_mem_append, forall_mem_entry, List.forall_mem_cons, List.forall_mem_singleton]
  exact ⟨fun _ _ => rfl, rfl, rfl⟩

/-- The path goes before the sections, and within these nothing changes its place. -/
theorem ordered_toToml (settings : Settings) : ordered settings.toToml =
    .table (entry "config_path" (settings.path.map fun path => .str path.text) ++ settings.sections) := by
  rw [toToml_eq]
  refine (ordered_append (forall_mem_entry.mpr fun _ _ => rfl) ?_).1
  rw [sections, List.forall_mem_cons, List.forall_mem_cons, List.forall_mem_cons, List.forall_mem_cons,
    List.forall_mem_singleton]
  exact ⟨⟨rfl, rfl⟩, ⟨rfl, rfl⟩, ⟨rfl, ordered_accountsSection settings⟩,
    ⟨rfl, ordered_cleanupSection settings⟩, ⟨rfl, ordered_executorSection settings⟩⟩

theorem fields?_ordered (settings : Settings) :
    (ordered settings.toToml).fields? FileSettings.sectionNames =
      settings.toToml.fields? FileSettings.sectionNames := by
  rw [ordered_toToml, toToml_eq]
  cases settings.path <;> rfl

theorem restates_shown {settings : Settings} (exact : settings.IsExact) {copy : FileNode}
    (written : copy.text = .ok (settings.toToml.document ++ "\n")) : settings.Restates copy :=
  ⟨_, _, written, Toml.parse?_document (tree_toToml exact 76), fields?_ordered settings⟩

variable {given : Bool} {path : Path} {environment : Environment} {settings : Settings}
  {node : FileNode}

theorem isExact_of_load (bare : environment.IsBare)
    (loaded : load given path (.ok node) environment = .ok settings) : settings.IsExact := by
  obtain ⟨file, found, rfl, -⟩ := of_load_bare bare loaded
  obtain ⟨_, document, -, parsed, read⟩ := FileSettings.read_eq_ok_iff.mp found
  exact isExact_merge (FileSettings.isExact_of_ofToml? (wellFormed_of_parse? parsed).isWritable read) _

/-- What was loaded can be shown, and the shown text is a file with its sections. Such a file gives all
settings again except the kinds: it cannot be read, or there is one kind left for which there is no policy.
So the kinds are the same only where they were this one before. -/
theorem load_restated (bare : environment.IsBare)
    (loaded : load given path (.ok node) environment = .ok settings) :
    settings.toToml.isWritable = true ∧
    (∀ copy : FileNode, copy.text = .ok (settings.toToml.document ++ "\n") → settings.Restates copy) ∧
    ∀ (again : Bool) (other : Path) (copy : FileNode), settings.Restates copy →
      (load again other (.ok copy) environment =
        if settings.kinds.contains "mode" then .error (.malformed other)
        else .ok { settings with kinds := KindSettings.misread, path := some other }) ∧
      (∀ reloaded, load again other (.ok copy) environment = .ok reloaded →
        ∀ kinds, reloaded.resolvePolicies kinds = .error (.unknownKind "kinds")) ∧
      (load again other (.ok copy) environment = .ok { settings with path := some other } ↔
        settings.kinds = KindSettings.misread) := by
  have exact := isExact_of_load bare loaded
  refine ⟨(tree_toToml exact 76).isWritable, fun copy => restates_shown exact,
    fun again other copy restates => ?_⟩
  have outcome := load_copy bare loaded restates again other
  refine ⟨outcome, fun reloaded found kinds => ?_, ?_⟩
  · rw [outcome] at found
    split at found
    · cases found
    · cases found
      exact resolvePolicies_misread rfl kinds
  · rw [outcome]
    constructor
    · intro found
      split at found
      · cases found
      · exact (congrArg kinds (Except.ok.inj found)).symm
    · intro misread
      have shown : settings.kinds.contains "mode" = false := by rw [misread]; rfl
      rw [shown, ← misread]
      rfl

/-! A file that configures one kind, as it is written and as it is shown. -/

def imageText : String := "[cleanup.image]\nmode = \"tag-with-age\"\nmax_age_days = 7\n"

def imageFile : FileNode := .file (Text.Utf8.encode imageText)

def imageSettings : Settings where
  kinds := .ofList [("image", ⟨some "tag-with-age", some 7⟩)]
  path := some (.ofText "c.toml")

def imageCopy : FileNode := .file (Text.Utf8.encode (imageSettings.toToml.document ++ "\n"))

theorem bare_none : Environment.IsBare fun _ => none := fun _ _ => rfl

theorem load_image :
    load true (.ofText "c.toml") (.ok imageFile) (fun _ => none) = .ok imageSettings := by
  decide +kernel

theorem text_imageCopy : imageCopy.text = .ok (imageSettings.toToml.document ++ "\n") := by
  decide +kernel

/-- The shown settings of the file are loaded without the kind. -/
theorem load_restated_image :
    load true (.ofText "c.toml") (.ok imageFile) (fun _ => none) = .ok imageSettings ∧
    imageSettings.Restates imageCopy ∧
    load false (.ofText "d.toml") (.ok imageCopy) (fun _ => none) =
      .ok { imageSettings with kinds := KindSettings.misread, path := some (.ofText "d.toml") } := by
  obtain ⟨-, shown, again⟩ := load_restated bare_none load_image
  have restates := shown imageCopy text_imageCopy
  exact ⟨load_image, restates, (again false (.ofText "d.toml") imageCopy restates).1⟩

/-- The kind has a policy before its settings are shown, and no kind has one after they are loaded again. -/
theorem image_lost :
    load true (.ofText "c.toml") (.ok imageFile) (fun _ => none) = .ok imageSettings ∧
    imageCopy.text = .ok (imageSettings.toToml.document ++ "\n") ∧
    ∃ reloaded, load true (.ofText "c.toml") (.ok imageCopy) (fun _ => none) = .ok reloaded ∧
      reloaded.kinds ≠ imageSettings.kinds ∧
      imageSettings.resolvePolicies [.image] = .ok (PolicyTable.empty.set .image (.tagWithAge 7)) ∧
      reloaded.resolvePolicies [.image] = .error (.unknownKind "kinds") := by
  have exact := isExact_of_load bare_none load_image
  have copied := load_copy bare_none load_image (restates_shown exact text_imageCopy) true (.ofText "c.toml")
  refine ⟨load_image, text_imageCopy, _, copied, by decide +kernel, ?_, resolvePolicies_misread rfl _⟩
  rfl

end Settings
end Retention
