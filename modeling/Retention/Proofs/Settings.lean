import Retention.Proofs.Json.Record
import Retention.Proofs.Text
import Retention.Settings.Load
import Retention.Settings.Policies
import Retention.Settings.Show

/-!
Shown settings as a file. The reader finds every setting again where it was shown, except for the kinds:
these are shown in a section of their own, which the reader takes for a kind.
-/
namespace Retention

namespace Toml

@[simp] theorem text?_str (text : String) : text? (.str text) = some text := rfl

@[simp] theorem bool?_bool (value : Bool) : bool? (.bool value) = some value := rfl

@[simp] theorem word64?_word (value : UInt64) : word64? (.word value) = some value := by
  have small : value.toNat < UInt64.size := value.toNat_lt_size
  simp [word, word64?, small]

@[simp] theorem list?_strings (texts : List String) :
    list? text? (.array (texts.map .str)) = some texts :=
  mapM_eq_some_iff.mpr (List.forall₂_map_left_iff.mpr (List.forall₂_same.mpr fun _ _ => rfl))

theorem optional_some {α : Type} {read : Toml → Option α} {value : Toml} {found : α}
    (told : read value = some found) : optional read (some value) = some (some found) := by
  rw [optional, told, Option.map_some]

theorem optional_map {α : Type} {read : Toml → Option α} {write : α → Toml}
    (each : ∀ value, read (write value) = some value) (value : Option α) :
    optional read (value.map write) = some value := by
  cases value with
  | none => rfl
  | some value => exact optional_some (each value)

end Toml

/-! The environment. -/

/-- No variable of the program is set. -/
def Environment.IsBare (environment : Environment) : Prop :=
  ∀ name, "TAGSWEEP_".toList <+: name.toList → environment name = none

namespace VariableSettings

/-- Settings without any variable. -/
def none : VariableSettings := ⟨.none, .none, .none, .none, .none, .none⟩

/-- The variables that go before a file. -/
def names : List String :=
  ["TAGSWEEP_REGIONS", "TAGSWEEP_REGIONS_ALL", "TAGSWEEP_MAX_AGE_DAYS", "TAGSWEEP_WORKERS",
   "TAGSWEEP_LOGS_CONSOLE", "TAGSWEEP_LOGS_FILE"]

theorem read_bare {environment : Environment} (bare : environment.IsBare) :
    read environment = .ok none := by
  have own : ∀ name ∈ names, "TAGSWEEP_".toList <+: name.toList := by decide
  have unset : ∀ name ∈ names, environment.text? name = .none := by
    intro name member
    rw [Environment.text?, bare name (own name member)]
    rfl
  simp only [names, List.forall_mem_cons] at unset
  simp only [read, regions?, readBoolean, readNumber, unset]
  rfl

end VariableSettings

/-! What the reader finds. -/

namespace FileSettings

theorem command?_of_command? {text command : String} (found : command? text = some command) :
    command? command = some command := by
  unfold command? at *
  simp only [Option.ite_none_left_eq_some, Option.some.injEq] at found
  obtain ⟨filled, rfl⟩ := found
  rw [Text.trim_trim, if_neg filled]

end FileSettings

/-- The kinds as the reader finds them where the section of the kinds stands for one. -/
def KindSettings.misread : Dictionary KindSettings := .ofList [("kinds", ⟨none, none⟩)]

namespace Settings

/-- A file in which every setting stands as in the given ones, and the section of the kinds for one. -/
def restated (settings : Settings) : FileSettings where
  regions := some settings.regions
  allRegions := some settings.allRegions
  workers := some settings.workers
  logToConsole := some settings.logToConsole
  logToFile := some settings.logToFile
  mainId := settings.mainId
  second := settings.second
  maxAgeDays := some settings.maxAgeDays
  kinds := KindSettings.misread
  hookCommand := settings.hookCommand
  hookSeconds := some settings.hookSeconds
  waitSeconds := some settings.waitSeconds

theorem merge_restated (settings : Settings) (path : Option Path) :
    merge settings.restated .none path =
      { settings with kinds := KindSettings.misread, path } := rfl

/-- What every file leaves behind: a command without blanks around it, and no kind under the key of the
general threshold. -/
structure IsTidy (settings : Settings) : Prop where
  command : ∀ command, settings.hookCommand = some command →
    FileSettings.command? command = some command
  kinds : settings.kinds.get? FileSettings.thresholdKey = none

end Settings

namespace SecondAccount

theorem ofToml?_toToml (account : SecondAccount) : ofToml? account.toToml = some account := by
  obtain ⟨id, role⟩ := account
  cases id <;> rfl

end SecondAccount

/-! Shown settings by their sections. -/

namespace Settings

variable (settings : Settings)

def generalSection : Toml := .table
  [("regions", .array (settings.regions.map .str)), ("regions_all", .bool settings.allRegions),
   ("workers", .word settings.workers)]

def loggingSection : Toml := .table
  [("console", .bool settings.logToConsole), ("file", .bool settings.logToFile)]

def mainAccount : Toml := .table (Toml.entry "id" (settings.mainId.map .str))

def accountsSection : Toml := .table <|
  [("main", settings.mainAccount)] ++ Toml.entry "second" (settings.second.map (·.toToml))

def kindsSection : Toml := .table (settings.kinds.entries.map fun kind => (kind.1, kind.2.toToml))

def cleanupSection : Toml := .table
  [("max_age_days", .word settings.maxAgeDays), ("kinds", settings.kindsSection)]

def executorSection : Toml := .table <|
  Toml.entry "command" (settings.hookCommand.map .str) ++
    [("timeout_secs", .word settings.hookSeconds), ("wait_timeout_secs", .word settings.waitSeconds)]

def sections : List (String × Toml) :=
  [("general", settings.generalSection), ("logging", settings.loggingSection),
   ("accounts", settings.accountsSection), ("cleanup", settings.cleanupSection),
   ("executor", settings.executorSection)]

theorem toToml_eq : settings.toToml =
    .table (settings.sections ++ Toml.entry "config_path" (settings.path.map fun path => .str path.text)) :=
  rfl

end Settings

namespace FileSettings

/-- The section of the kinds is read as the entry of a kind. Then a kind of the name of a field is a value
of that field. -/
theorem kindSettings?_kindsSection {settings : Settings}
    (tidy : settings.kinds.get? thresholdKey = none) :
    KindSettings.ofToml? settings.kindsSection =
      if settings.kinds.contains "mode" then none else some ⟨none, none⟩ := by
  have fields : settings.kindsSection.fields? ["mode", thresholdKey] =
      some [(settings.kinds.get? "mode").map KindSettings.toToml, none] := by
    simp only [Settings.kindsSection, Toml.fields?, List.map_cons, List.map_nil,
      Dictionary.lookup_map, tidy, Option.map_none]
  rw [thresholdKey] at fields
  rw [KindSettings.ofToml?, fields, Dictionary.contains]
  cases settings.kinds.get? "mode" <;> rfl

theorem cleanup?_cleanupSection {settings : Settings}
    (tidy : settings.kinds.get? thresholdKey = none) :
    cleanup? (some settings.cleanupSection) =
      if settings.kinds.contains "mode" then none
      else some (some settings.maxAgeDays, KindSettings.misread) := by
  have found := kindSettings?_kindsSection tidy
  by_cases hidden : settings.kinds.contains "mode" = true
  · rw [if_pos hidden] at found ⊢
    simp [Settings.cleanupSection, cleanup?, found, thresholdKey, Toml.optional]
  · rw [if_neg hidden] at found ⊢
    simp [Settings.cleanupSection, cleanup?, found, thresholdKey, Toml.optional, KindSettings.misread]

def sectionNames : List String := ["general", "logging", "accounts", "cleanup", "executor"]

theorem mainId?_mainAccount (settings : Settings) :
    mainId? (some settings.mainAccount) = some settings.mainId := by
  cases found : settings.mainId <;> simp [Settings.mainAccount, found] <;> rfl

theorem ofToml?_eq_some_iff {document : Toml} {file : FileSettings} :
    ofToml? document = some file ↔ ∃ general logging accounts cleanup executor,
      document.fields? sectionNames = some [general, logging, accounts, cleanup, executor] ∧
      (∃ regions allRegions workers,
        sectionFields ["regions", "regions_all", "workers"] general =
          some [regions, allRegions, workers] ∧
        Toml.optional (Toml.list? Toml.text?) regions = some file.regions ∧
        Toml.optional Toml.bool? allRegions = some file.allRegions ∧
        Toml.optional Toml.word64? workers = some file.workers) ∧
      (∃ console log, sectionFields ["console", "file"] logging = some [console, log] ∧
        Toml.optional Toml.bool? console = some file.logToConsole ∧
        Toml.optional Toml.bool? log = some file.logToFile) ∧
      (∃ main second, sectionFields ["main", "second"] accounts = some [main, second] ∧
        mainId? main = some file.mainId ∧
        Toml.optional SecondAccount.ofToml? second = some file.second) ∧
      cleanup? cleanup = some (file.maxAgeDays, file.kinds) ∧
      ∃ command timeout waitTimeout text,
        sectionFields ["command", "timeout_secs", "wait_timeout_secs"] executor =
          some [command, timeout, waitTimeout] ∧
        Toml.optional Toml.text? command = some text ∧ file.hookCommand = text.bind command? ∧
        Toml.optional Toml.word64? timeout = some file.hookSeconds ∧
        Toml.optional Toml.word64? waitTimeout = some file.waitSeconds := by
  constructor
  · intro read
    obtain ⟨sections, whole, read⟩ := Option.bind_eq_some_iff.mp read
    split at read
    case h_2 => cases read
    obtain ⟨first, general, read⟩ := Option.bind_eq_some_iff.mp read
    split at read
    case h_2 => cases read
    obtain ⟨second, logging, read⟩ := Option.bind_eq_some_iff.mp read
    split at read
    case h_2 => cases read
    obtain ⟨third, accounts, read⟩ := Option.bind_eq_some_iff.mp read
    split at read
    case h_2 => cases read
    obtain ⟨fourth, cleanup, read⟩ := Option.bind_eq_some_iff.mp read
    obtain ⟨fifth, executor, read⟩ := Option.bind_eq_some_iff.mp read
    split at read
    case h_2 => cases read
    obtain ⟨_, regions, read⟩ := Option.bind_eq_some_iff.mp read
    obtain ⟨_, allRegions, read⟩ := Option.bind_eq_some_iff.mp read
    obtain ⟨_, workers, read⟩ := Option.bind_eq_some_iff.mp read
    obtain ⟨_, console, read⟩ := Option.bind_eq_some_iff.mp read
    obtain ⟨_, log, read⟩ := Option.bind_eq_some_iff.mp read
    obtain ⟨_, main, read⟩ := Option.bind_eq_some_iff.mp read
    obtain ⟨_, account, read⟩ := Option.bind_eq_some_iff.mp read
    obtain ⟨text, command, read⟩ := Option.bind_eq_some_iff.mp read
    obtain ⟨_, timeout, read⟩ := Option.bind_eq_some_iff.mp read
    obtain ⟨_, waitTimeout, read⟩ := Option.bind_eq_some_iff.mp read
    cases read
    exact ⟨_, _, _, _, _, whole, ⟨_, _, _, general, regions, allRegions, workers⟩,
      ⟨_, _, logging, console, log⟩, ⟨_, _, accounts, main, account⟩, cleanup,
      ⟨_, _, _, text, executor, command, rfl, timeout, waitTimeout⟩⟩
  · rintro ⟨_, _, _, _, _, whole, ⟨_, _, _, general, regions, allRegions, workers⟩,
      ⟨_, _, logging, console, log⟩, ⟨_, _, accounts, main, account⟩, cleanup,
      ⟨_, _, _, _, executor, command, same, timeout, waitTimeout⟩⟩
    refine Option.bind_eq_some_iff.mpr ⟨_, whole, Option.bind_eq_some_iff.mpr ⟨_, general, ?_⟩⟩
    refine Option.bind_eq_some_iff.mpr ⟨_, logging, Option.bind_eq_some_iff.mpr ⟨_, accounts, ?_⟩⟩
    refine Option.bind_eq_some_iff.mpr ⟨_, cleanup, Option.bind_eq_some_iff.mpr ⟨_, executor, ?_⟩⟩
    refine Option.bind_eq_some_iff.mpr ⟨_, regions, Option.bind_eq_some_iff.mpr ⟨_, allRegions, ?_⟩⟩
    refine Option.bind_eq_some_iff.mpr ⟨_, workers, Option.bind_eq_some_iff.mpr ⟨_, console, ?_⟩⟩
    refine Option.bind_eq_some_iff.mpr ⟨_, log, Option.bind_eq_some_iff.mpr ⟨_, main, ?_⟩⟩
    refine Option.bind_eq_some_iff.mpr ⟨_, account, Option.bind_eq_some_iff.mpr ⟨_, command, ?_⟩⟩
    refine Option.bind_eq_some_iff.mpr ⟨_, timeout, Option.bind_eq_some_iff.mpr ⟨_, waitTimeout, ?_⟩⟩
    rw [← same]

theorem ofToml?_toToml {settings : Settings} {document : Toml} (tidy : settings.IsTidy)
    (same : document.fields? sectionNames = settings.toToml.fields? sectionNames) :
    ofToml? document = if settings.kinds.contains "mode" then none else some settings.restated := by
  have cleanup := cleanup?_cleanupSection tidy.kinds
  have command : settings.hookCommand.bind command? = settings.hookCommand := by
    cases found : settings.hookCommand with
    | none => rfl
    | some command => rw [Option.bind_some, tidy.command command found]
  have general : sectionFields ["regions", "regions_all", "workers"] (some settings.generalSection) =
      some [some (.array (settings.regions.map .str)), some (.bool settings.allRegions),
        some (.word settings.workers)] := rfl
  have logging : sectionFields ["console", "file"] (some settings.loggingSection) =
      some [some (.bool settings.logToConsole), some (.bool settings.logToFile)] := rfl
  have accounts : sectionFields ["main", "second"] (some settings.accountsSection) =
      some [some settings.mainAccount, settings.second.map SecondAccount.toToml] := by
    rw [Settings.accountsSection]
    cases settings.second <;> rfl
  have executor : sectionFields ["command", "timeout_secs", "wait_timeout_secs"]
      (some settings.executorSection) =
      some [settings.hookCommand.map .str, some (.word settings.hookSeconds),
        some (.word settings.waitSeconds)] := by
    rw [Settings.executorSection]
    cases settings.hookCommand <;> rfl
  have shown : settings.toToml.fields? sectionNames = some [some settings.generalSection,
      some settings.loggingSection, some settings.accountsSection, some settings.cleanupSection,
      some settings.executorSection] := rfl
  by_cases hidden : settings.kinds.contains "mode" = true
  · rw [if_pos hidden] at cleanup ⊢
    refine Option.eq_none_iff_forall_ne_some.mpr fun file read => ?_
    obtain ⟨_, _, _, _, _, whole, -, -, -, kinds, -⟩ := ofToml?_eq_some_iff.mp read
    rw [same, shown] at whole
    cases whole
    rw [cleanup] at kinds
    cases kinds
  · rw [if_neg hidden] at cleanup ⊢
    exact ofToml?_eq_some_iff.mpr ⟨_, _, _, _, _, same.trans shown,
      ⟨_, _, _, general, Toml.optional_some (Toml.list?_strings _), Toml.optional_some (Toml.bool?_bool _),
        Toml.optional_some (Toml.word64?_word _)⟩,
      ⟨_, _, logging, Toml.optional_some (Toml.bool?_bool _), Toml.optional_some (Toml.bool?_bool _)⟩,
      ⟨_, _, accounts, mainId?_mainAccount settings, Toml.optional_map SecondAccount.ofToml?_toToml _⟩,
      cleanup,
      ⟨_, _, _, _, executor, Toml.optional_map Toml.text?_str _, command.symm,
        Toml.optional_some (Toml.word64?_word _), Toml.optional_some (Toml.word64?_word _)⟩⟩

/-- Every key of the section but the general threshold is a kind. -/
theorem kinds_of_cleanup? {value : Option Toml} {maxAgeDays : Option UInt64}
    {kinds : Dictionary KindSettings} (read : cleanup? value = some (maxAgeDays, kinds)) :
    kinds.get? thresholdKey = none := by
  unfold cleanup? at read
  split at read
  · cases read
    rfl
  · simp only [Option.bind_eq_bind, Option.bind_eq_some_iff] at read
    obtain ⟨_, -, found, each, same⟩ := read
    cases same
    refine Dictionary.get?_ofList_eq_none fun entry member => ?_
    obtain ⟨source, inside, told⟩ := exists_of_mem_mapM each member
    obtain ⟨_, -, same⟩ := Option.bind_eq_some_iff.mp told
    cases same
    simpa using (List.mem_filter.mp inside).2
  · cases read

theorem read_eq_ok_iff {path : Path} {node : FileNode} {file : FileSettings} :
    read path node = .ok file ↔ ∃ text document, node.text = .ok text ∧
      Toml.parse? text = some document ∧ ofToml? document = some file := by
  unfold read
  cases node.text with
  | error cause => simp
  | ok text =>
    cases parsed : Toml.parse? text with
    | none => simp [parsed]
    | some document => cases found : ofToml? document <;> simp [parsed, found]

theorem read_eq_malformed {path : Path} {node : FileNode} {text : String}
    (written : node.text = .ok text) (failed : (Toml.parse? text).bind ofToml? = none) :
    read path node = .error (.malformed path) := by
  rw [read, written]
  simp [failed]

end FileSettings

theorem ConfiguredKind.extend_eq_error {found : List ConfiguredKind} {entry : String × KindSettings}
    (unknown : Kind.parse? entry.1 = none) : extend found entry = .error (.unknownKind entry.1) := by
  unfold extend
  rw [unknown]

namespace Settings

variable {given : Bool} {path : Path} {environment : Environment} {settings : Settings}

theorem load_bare {node : FileNode} (bare : environment.IsBare) :
    load given path (.ok node) environment = (FileSettings.read path node).bind fun file =>
      let settings := merge file .none (some path)
      if settings.workers = 0 then .error .noWorkers else .ok settings := by
  simp only [load, readFile, VariableSettings.read_bare bare]
  cases FileSettings.read path node <;> rfl

theorem of_load_bare {node : FileNode} (bare : environment.IsBare)
    (loaded : load given path (.ok node) environment = .ok settings) :
    ∃ file, FileSettings.read path node = .ok file ∧ merge file .none (some path) = settings ∧
      settings.workers ≠ 0 := by
  rw [load_bare bare] at loaded
  cases found : FileSettings.read path node with
  | error cause =>
    rw [found] at loaded
    cases loaded
  | ok file =>
    rw [found] at loaded
    simp only [Except.bind] at loaded
    split at loaded
    · cases loaded
    · rename_i some
      cases loaded
      exact ⟨file, rfl, rfl, some⟩

/-- What a file leaves behind is tidy. -/
theorem tidy_of_load {node : FileNode} (bare : environment.IsBare)
    (loaded : load given path (.ok node) environment = .ok settings) : settings.IsTidy := by
  obtain ⟨file, found, rfl, -⟩ := of_load_bare bare loaded
  obtain ⟨_, document, -, -, read⟩ := FileSettings.read_eq_ok_iff.mp found
  obtain ⟨_, _, _, _, _, -, -, -, -, cleanup, _, _, _, text, -, -, command, -, -⟩ :=
    FileSettings.ofToml?_eq_some_iff.mp read
  refine ⟨fun told configured => ?_, FileSettings.kinds_of_cleanup? cleanup⟩
  have source : text.bind FileSettings.command? = some told := command.symm.trans configured
  obtain ⟨_, -, trimmed⟩ := Option.bind_eq_some_iff.mp source
  exact FileSettings.command?_of_command? trimmed

/-- A file with the sections of shown settings, however they are written. -/
def Restates (settings : Settings) (copy : FileNode) : Prop :=
  ∃ text document, copy.text = .ok text ∧ Toml.parse? text = some document ∧
    document.fields? FileSettings.sectionNames = settings.toToml.fields? FileSettings.sectionNames

/-- Such a file cannot be loaded if a kind hides a field of a kind. Otherwise all settings are the same but
the kinds. -/
theorem load_copy {node copy : FileNode} (bare : environment.IsBare)
    (loaded : load given path (.ok node) environment = .ok settings) (restates : settings.Restates copy)
    (again : Bool) (other : Path) :
    load again other (.ok copy) environment =
      if settings.kinds.contains "mode" then .error (.malformed other)
      else .ok { settings with kinds := KindSettings.misread, path := some other } := by
  obtain ⟨text, document, written, parsed, same⟩ := restates
  obtain ⟨-, -, -, workers⟩ := of_load_bare bare loaded
  have read := FileSettings.ofToml?_toToml (tidy_of_load bare loaded) same
  rw [load_bare bare]
  by_cases hidden : settings.kinds.contains "mode" = true
  · rw [if_pos hidden] at read ⊢
    rw [FileSettings.read_eq_malformed written (by rw [parsed, Option.bind_some, read])]
    rfl
  · rw [if_neg hidden] at read ⊢
    rw [FileSettings.read_eq_ok_iff.mpr ⟨text, document, written, parsed, read⟩]
    simp only [Except.bind, merge_restated]
    exact if_neg workers

/-- The section of the kinds is the name of no kind. -/
theorem resolvePolicies_misread (same : settings.kinds = KindSettings.misread) (kinds : List Kind) :
    settings.resolvePolicies kinds = .error (.unknownKind "kinds") := by
  have entries : settings.kinds.entries = [("kinds", ⟨none, none⟩)] := by rw [same]; rfl
  have unknown : Kind.parse? "kinds" = none := by decide
  have refused : ConfiguredKind.ofEntries [("kinds", ⟨none, none⟩)] =
      .error (.unknownKind "kinds") := by
    rw [ConfiguredKind.ofEntries, List.foldlM_cons, @ConfiguredKind.extend_eq_error [] ("kinds", ⟨none, none⟩) unknown]
    rfl
  rw [resolvePolicies, entries, refused]
  rfl

end Settings
end Retention
