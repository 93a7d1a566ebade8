import Retention.Proofs.Except
import Retention.Proofs.Places

/-!
Variables and keys as they are read. What is merged from both has each setting from its own places, and a
variable that cannot be read is set to something that it cannot stand for.
-/
namespace Retention

/-! Entries. -/

namespace Toml

theorem optional_eq_some_iff {α : Type} {read : Toml → Option α} {field : Option Toml} {found : Option α} :
    optional read field = some found ↔ field.map read = found.map some := by
  cases field <;> cases found <;> simp [optional]

theorem lookup_of_mapM {α : Type} {read : Toml → Option α} {entries : List (String × Toml)}
    {found : List (String × α)}
    (mapped : (entries.mapM fun entry => do return (entry.1, ← read entry.2)) = some found) (key : String) :
    (entries.lookup key).map read = (found.lookup key).map some := by
  have each := mapM_eq_some_iff.mp mapped
  clear mapped
  induction each with
  | nil => rfl
  | @cons entry one entries found first _ ih =>
    obtain ⟨value, told, same⟩ := Option.bind_eq_some_iff.mp first
    cases same
    rw [List.lookup_cons, List.lookup_cons]
    cases key == entry.1 with
    | true => simp [told]
    | false => exact ih

theorem keys_of_mapM {α : Type} {read : Toml → Option α} {entries : List (String × Toml)}
    {found : List (String × α)}
    (mapped : (entries.mapM fun entry => do return (entry.1, ← read entry.2)) = some found) :
    found.map Prod.fst = entries.map Prod.fst := by
  have each := mapM_eq_some_iff.mp mapped
  clear mapped
  induction each with
  | nil => rfl
  | cons first _ ih =>
    obtain ⟨_, -, same⟩ := Option.bind_eq_some_iff.mp first
    cases same
    rw [List.map_cons, List.map_cons, ih]

theorem lookup_filter (entries : List (String × Toml)) (left key : String) :
    (entries.filter (·.1 != left)).lookup key = if key = left then none else entries.lookup key := by
  induction entries with
  | nil => simp
  | cons entry entries ih =>
    rw [List.filter_cons, List.lookup_cons]
    by_cases same : entry.1 = left
    · rw [if_neg (by simp [same]), ih, same]
      by_cases asked : key = left
      · rw [if_pos asked, if_pos asked]
      · rw [if_neg asked, if_neg asked, beq_false_of_ne asked]
    · rw [if_pos (by simpa using same), List.lookup_cons, ih]
      by_cases asked : key = left
      · have other : key ≠ entry.1 := fun equal => same (equal.symm.trans asked)
        rw [if_pos asked, if_pos asked, beq_false_of_ne other]
      · rw [if_neg asked, if_neg asked]

end Toml

/-! Variables. -/

namespace VariableSettings

def booleanNames : List String :=
  ["TAGSWEEP_REGIONS_ALL", "TAGSWEEP_LOGS_CONSOLE", "TAGSWEEP_LOGS_FILE"]

def numberNames : List String := ["TAGSWEEP_MAX_AGE_DAYS", "TAGSWEEP_WORKERS"]

/-- A variable that is set to something that it cannot stand for. -/
inductive Misread (environment : Environment) : VariableError → Prop
  | boolean {name text} (own : name ∈ booleanNames) (set : environment.text? name = some text)
      (unread : boolean? (Text.lowerAscii (Text.trim text)) = .none) :
      Misread environment (.notBoolean name (Text.lowerAscii (Text.trim text)))
  | number {name text cause} (own : name ∈ numberNames) (set : environment.text? name = some text)
      (unread : Text.readWord (Text.trim text) = .error cause) : Misread environment (.notNumber name cause)

variable {environment : Environment} {name : String} {cause : VariableError}

theorem told_of_readBoolean {found : Option Bool} (read : readBoolean environment name = .ok found) :
    (environment.text? name).map (fun text => boolean? (Text.lowerAscii (Text.trim text))) =
      found.map some := by
  unfold readBoolean at read
  split at read
  · rename_i unset
    cases read
    rw [unset]
    rfl
  · rename_i text set
    dsimp only at read
    split at read
    · rename_i told
      cases read
      rw [set, Option.map_some, told, Option.map_some]
    · cases read

theorem misread_of_readBoolean (own : name ∈ booleanNames)
    (failed : readBoolean environment name = .error cause) : Misread environment cause := by
  unfold readBoolean at failed
  split at failed
  · cases failed
  · rename_i text set
    dsimp only at failed
    split at failed
    · cases failed
    · rename_i unread
      cases failed
      exact .boolean own set unread

theorem told_of_readNumber {found : Option UInt64} (read : readNumber environment name = .ok found) :
    (environment.text? name).map (fun text => Text.word64? (Text.trim text)) = found.map some := by
  unfold readNumber at read
  split at read
  · rename_i unset
    cases read
    rw [unset]
    rfl
  · rename_i text set
    split at read
    · rename_i told
      cases read
      rw [set, Option.map_some, Text.word64?, told, Option.map_some]
      rfl
    · cases read

theorem misread_of_readNumber (own : name ∈ numberNames)
    (failed : readNumber environment name = .error cause) : Misread environment cause := by
  unfold readNumber at failed
  split at failed
  · cases failed
  · rename_i text set
    split at failed
    · cases failed
    · rename_i unread
      cases failed
      exact .number own set unread

theorem told_regions? (environment : Environment) :
    (Setting.regions.inEnvironment environment).map Setting.regions.ofText =
      (regions? environment).map some := by
  simp only [Setting.regions, regions?]
  cases environment.text? "TAGSWEEP_REGIONS" with
  | none => rfl
  | some text =>
    show ((some text).filter fun text => !(Setting.listed text).isEmpty).map _ =
      (if (Setting.listed text).isEmpty then Option.none else some (Setting.listed text)).map some
    rw [Option.filter_some]
    cases (Setting.listed text).isEmpty <;> rfl

theorem readings_of_read {values : VariableSettings} (done : read environment = .ok values) :
    values.regions = regions? environment ∧
    readBoolean environment "TAGSWEEP_REGIONS_ALL" = .ok values.allRegions ∧
    readNumber environment "TAGSWEEP_MAX_AGE_DAYS" = .ok values.maxAgeDays ∧
    readNumber environment "TAGSWEEP_WORKERS" = .ok values.workers ∧
    readBoolean environment "TAGSWEEP_LOGS_CONSOLE" = .ok values.logToConsole ∧
    readBoolean environment "TAGSWEEP_LOGS_FILE" = .ok values.logToFile := by
  obtain ⟨_, allRegions, done⟩ := bind_eq_ok_iff.mp done
  obtain ⟨_, maxAgeDays, done⟩ := bind_eq_ok_iff.mp done
  obtain ⟨_, workers, done⟩ := bind_eq_ok_iff.mp done
  obtain ⟨_, console, done⟩ := bind_eq_ok_iff.mp done
  obtain ⟨_, file, done⟩ := bind_eq_ok_iff.mp done
  cases done
  exact ⟨rfl, allRegions, maxAgeDays, workers, console, file⟩

theorem misread_of_read (failed : read environment = .error cause) : Misread environment cause := by
  rcases bind_eq_error_iff.mp failed with failed | ⟨_, -, failed⟩
  · exact misread_of_readBoolean (by simp [booleanNames]) failed
  rcases bind_eq_error_iff.mp failed with failed | ⟨_, -, failed⟩
  · exact misread_of_readNumber (by simp [numberNames]) failed
  rcases bind_eq_error_iff.mp failed with failed | ⟨_, -, failed⟩
  · exact misread_of_readNumber (by simp [numberNames]) failed
  rcases bind_eq_error_iff.mp failed with failed | ⟨_, -, failed⟩
  · exact misread_of_readBoolean (by simp [booleanNames]) failed
  rcases bind_eq_error_iff.mp failed with failed | ⟨_, -, failed⟩
  · exact misread_of_readBoolean (by simp [booleanNames]) failed
  · cases failed

end VariableSettings

/-! The file. -/

namespace FileSettings

theorem sectionFields_eq {names : List String} {part : Option Toml} {fields : List (Option Toml)}
    (distinct : names.Nodup) (found : sectionFields names part = some fields) :
    fields = names.map fun name => part.bind (·.field? names name) := by
  cases part with
  | none =>
    cases found
    rfl
  | some value => exact Toml.fields?_eq distinct found

/-- The record holds what stands in the document. -/
structure Holds (document : Toml) (file : FileSettings) : Prop where
  regions : (inSection "general" generalNames "regions" document).map (Toml.list? Toml.text?) =
    file.regions.map some
  allRegions : (inSection "general" generalNames "regions_all" document).map Toml.bool? =
    file.allRegions.map some
  workers : (inSection "general" generalNames "workers" document).map Toml.word64? = file.workers.map some
  console : (inSection "logging" loggingNames "console" document).map Toml.bool? =
    file.logToConsole.map some
  log : (inSection "logging" loggingNames "file" document).map Toml.bool? = file.logToFile.map some
  main : ((inSection "accounts" accountNames "main" document).bind (·.field? ["id"] "id")).map Toml.text? =
    file.mainId.map some
  second : (inSection "accounts" accountNames "second" document).map SecondAccount.ofToml? =
    file.second.map some
  maxAgeDays : (inCleanup thresholdKey document).map Toml.word64? = file.maxAgeDays.map some
  kinds : ∀ name, (kindEntry name document).map KindSettings.ofToml? = (file.kinds.get? name).map some
  command : ∃ text : Option String,
    (inSection "executor" executorNames "command" document).map Toml.text? = text.map some ∧
    file.hookCommand = text.bind command?
  timeout : (inSection "executor" executorNames "timeout_secs" document).map Toml.word64? =
    file.hookSeconds.map some
  waitTimeout : (inSection "executor" executorNames "wait_timeout_secs" document).map Toml.word64? =
    file.waitSeconds.map some

theorem kept_of_cleanup? {document : Toml} {maxAgeDays : Option UInt64} {kinds : Dictionary KindSettings}
    (formed : ∀ part, document.field? sectionNames "cleanup" = some part → part.WellFormed)
    (read : cleanup? (document.field? sectionNames "cleanup") = some (maxAgeDays, kinds)) :
    (inCleanup thresholdKey document).map Toml.word64? = maxAgeDays.map some ∧
      ∀ name, (kindEntry name document).map KindSettings.ofToml? = (kinds.get? name).map some := by
  unfold kindEntry inCleanup
  generalize document.field? sectionNames "cleanup" = part at formed read
  unfold cleanup? at read
  split at read
  · cases read
    exact ⟨rfl, fun name => by split <;> rfl⟩
  · rename_i entries
    obtain ⟨apart, -⟩ := Toml.wellFormed_table.mp (formed _ rfl)
    simp only [Option.bind_eq_bind, Option.bind_eq_some_iff] at read
    obtain ⟨_, general, found, each, same⟩ := read
    cases same
    refine ⟨Toml.optional_eq_some_iff.mp general, fun name => ?_⟩
    have distinct : (found.map Prod.fst).Nodup := by
      rw [Toml.keys_of_mapM each]
      exact (List.filter_sublist.map Prod.fst).nodup apart
    rw [Dictionary.get?_ofList distinct, ← Toml.lookup_of_mapM each, Toml.lookup_filter]
    rfl
  · cases read

theorem kept_of_mainId? {account : Option Toml} {found : Option String}
    (read : mainId? account = some found) :
    (account.bind (·.field? ["id"] "id")).map Toml.text? = found.map some := by
  obtain ⟨fields, told, read⟩ := Option.bind_eq_some_iff.mp read
  have each := sectionFields_eq (by decide) told
  split at read
  · cases each
    exact Toml.optional_eq_some_iff.mp read
  · cases read

theorem kept_of_second {value : Toml} {account : SecondAccount}
    (read : SecondAccount.ofToml? value = some account) :
    (value.field? secondNames "id").map Toml.text? = account.id.map some ∧
      (value.field? secondNames "role_to_assume").map Toml.text? = (some account.role).map some := by
  obtain ⟨fields, told, read⟩ := Option.bind_eq_some_iff.mp read
  have each := Toml.fields?_eq (by decide) told
  split at read
  · cases each
    obtain ⟨id, first, read⟩ := Option.bind_eq_some_iff.mp read
    obtain ⟨role, second, same⟩ := Option.bind_eq_some_iff.mp read
    cases same
    refine ⟨Toml.optional_eq_some_iff.mp first, ?_⟩
    obtain ⟨found, present, told⟩ := Option.bind_eq_some_iff.mp second
    exact Option.map_eq_some_iff.mpr ⟨found, present, told⟩
  · cases read

theorem kept_of_kind {value : Toml} {entry : KindSettings} (read : KindSettings.ofToml? value = some entry) :
    (value.field? kindNames "mode").map Toml.text? = entry.mode.map some ∧
      (value.field? kindNames "max_age_days").map Toml.word64? = entry.maxAgeDays.map some := by
  obtain ⟨fields, told, read⟩ := Option.bind_eq_some_iff.mp read
  have each := Toml.fields?_eq (by decide) told
  split at read
  case h_2 => cases read
  cases each
  split at read
  · cases read
  · obtain ⟨mode, first, read⟩ := Option.bind_eq_some_iff.mp read
    obtain ⟨maxAgeDays, second, same⟩ := Option.bind_eq_some_iff.mp read
    cases same
    exact ⟨Toml.optional_eq_some_iff.mp first, Toml.optional_eq_some_iff.mp second⟩

theorem holds_of_ofToml? {document : Toml} {file : FileSettings} (formed : document.WellFormed)
    (read : ofToml? document = some file) : Holds document file := by
  obtain ⟨_, _, _, _, _, whole, ⟨_, _, _, general, regions, allRegions, workers⟩,
    ⟨_, _, logging, console, log⟩, ⟨_, _, accounts, main, second⟩, cleanup,
    ⟨_, _, _, _, executor, command, hook, timeout, waitTimeout⟩⟩ := ofToml?_eq_some_iff.mp read
  cases Toml.fields?_eq (by decide) whole
  cases sectionFields_eq (by decide) general
  cases sectionFields_eq (by decide) logging
  cases sectionFields_eq (by decide) accounts
  cases sectionFields_eq (by decide) executor
  obtain ⟨maxAgeDays, kinds⟩ := kept_of_cleanup? (fun _ => Toml.wellFormed_field? formed) cleanup
  exact {
    regions := Toml.optional_eq_some_iff.mp regions
    allRegions := Toml.optional_eq_some_iff.mp allRegions
    workers := Toml.optional_eq_some_iff.mp workers
    console := Toml.optional_eq_some_iff.mp console
    log := Toml.optional_eq_some_iff.mp log
    main := kept_of_mainId? main
    second := Toml.optional_eq_some_iff.mp second
    maxAgeDays
    kinds
    command := ⟨_, Toml.optional_eq_some_iff.mp command, hook⟩
    timeout := Toml.optional_eq_some_iff.mp timeout
    waitTimeout := Toml.optional_eq_some_iff.mp waitTimeout }

end FileSettings

/-! Every setting is drawn from its own places. -/

namespace Setting

open FileSettings

variable {α : Type} {environment : Environment} {document : Toml} {file : FileSettings}
  {values : VariableSettings} {path : Option Path}

theorem drawn_ofFile {get : Settings → α} {inFile : Toml → Option Toml} {read : Toml → Option α}
    {standard : α} {found : Option α} (kept : (inFile document).map read = found.map some) :
    (ofFile get inFile read standard).Drawn environment document (found.getD standard) :=
  .of_sources (ofFile get inFile read standard) none found rfl kept

theorem drawn_boolean {get : Settings → Bool} {name : String} {inFile : Toml → Option Toml}
    {standard : Bool} {told kept : Option Bool}
    (read : VariableSettings.readBoolean environment name = .ok told)
    (stands : (inFile document).map Toml.bool? = kept.map some) :
    (boolean get name inFile standard).Drawn environment document ((told.or kept).getD standard) := by
  refine Drawn.of_sources (boolean get name inFile standard) told kept ?_ stands
  -- With the setting in the goal the reader of texts would be evaluated.
  dsimp only [boolean]
  exact VariableSettings.told_of_readBoolean read

theorem drawn_number {get : Settings → UInt64} {name : String} {inFile : Toml → Option Toml}
    {standard : UInt64} {told kept : Option UInt64}
    (read : VariableSettings.readNumber environment name = .ok told)
    (stands : (inFile document).map Toml.word64? = kept.map some) :
    (number get name inFile standard).Drawn environment document ((told.or kept).getD standard) := by
  refine Drawn.of_sources (number get name inFile standard) told kept ?_ stands
  dsimp only [number]
  exact VariableSettings.told_of_readNumber read

theorem kept_map {β : Type} {outer : Option Toml} {read : Toml → Option α} {found : Option α} (f : α → β)
    (kept : outer.map read = found.map some) :
    outer.map (fun value => (read value).map f) = (found.map f).map some := by
  have composed : outer.map (fun value => (read value).map f) = (outer.map read).map (Option.map f) := by
    rw [Option.map_map]
    rfl
  rw [composed, kept]
  cases found <;> rfl

/-- A setting that has no value without its key. -/
theorem drawn_ofFile_none {get : Settings → Option α} {inFile : Toml → Option Toml}
    {read : Toml → Option α} {found : Option α} (kept : (inFile document).map read = found.map some) :
    (ofFile get inFile (fun value => (read value).map some) none).Drawn environment document found := by
  cases found with
  | none => exact drawn_ofFile (kept_map some kept)
  | some value => exact drawn_ofFile (kept_map some kept)

/-- A field of a record that stands under a key. -/
theorem kept_bind {ρ : Type} {outer : Option Toml} {read : Toml → Option ρ} {found : Option ρ}
    {inner : Toml → Option Toml} {readInner : Toml → Option α} {field : ρ → Option α}
    (kept : outer.map read = found.map some)
    (each : ∀ value record, read value = some record →
      (inner value).map readInner = (field record).map some) :
    (outer.bind inner).map readInner = (found.bind field).map some := by
  cases outer with
  | none =>
    cases found with
    | none => rfl
    | some record => cases kept
  | some value =>
    cases found with
    | none => cases kept
    | some record => exact each value record (Option.some.inj kept)

theorem drawn_secondId (holds : Holds document file) :
    secondId.Drawn environment document (file.second.bind (·.id)) :=
  drawn_ofFile_none (kept_bind holds.second fun _ _ read => (kept_of_second read).1)

theorem drawn_secondRole (holds : Holds document file) :
    secondRole.Drawn environment document (file.second.map (·.role)) := by
  rw [Option.map_eq_bind]
  exact drawn_ofFile_none (kept_bind holds.second fun _ _ read => (kept_of_second read).2)

theorem drawn_kindListed (holds : Holds document file) (name : String) :
    (kindListed name).Drawn environment document (file.kinds.contains name) := by
  have same : (kindEntry name document).isSome = (file.kinds.get? name).isSome := by
    simpa using congrArg Option.isSome (holds.kinds name)
  rw [Dictionary.contains, ← same]
  cases present : kindEntry name document with
  | none => exact .byDefault rfl present
  | some value => exact .fromFile rfl present rfl

theorem command?_eq (text : String) :
    command? text = if Text.trim text = "" then none else some (Text.trim text) := by
  simp [command?]

theorem drawn_hookCommand (holds : Holds document file) :
    hookCommand.Drawn environment document file.hookCommand := by
  obtain ⟨text, kept, same⟩ := holds.command
  have told : (text.map command?).getD none = text.bind command? := by cases text <;> rfl
  rw [same, ← told, funext command?_eq]
  exact drawn_ofFile (kept_map _ kept)

/-- Merged settings have each setting from its own places. -/
theorem OfProgram.drawn {setting : Setting α} (own : setting.OfProgram)
    (read : VariableSettings.read environment = .ok values) (holds : Holds document file) :
    setting.Drawn environment document (setting.get (Settings.merge file values path)) := by
  obtain ⟨named, allRegions, maxAgeDays, workers, console, log⟩ :=
    VariableSettings.readings_of_read read
  cases own with
  | regions =>
    have told := VariableSettings.told_regions? environment
    rw [← named] at told
    exact .of_sources Setting.regions values.regions file.regions told holds.regions
  | allRegions => exact drawn_boolean allRegions holds.allRegions
  | workers => exact drawn_number workers holds.workers
  | logToConsole => exact drawn_boolean console holds.console
  | logToFile => exact drawn_boolean log holds.log
  | maxAgeDays => exact drawn_number maxAgeDays holds.maxAgeDays
  | mainId => exact drawn_ofFile_none holds.main
  | secondId => exact drawn_secondId holds
  | secondRole => exact drawn_secondRole holds
  | kindListed name => exact drawn_kindListed holds name
  | kindMode name =>
    exact drawn_ofFile_none (kept_bind (holds.kinds name) fun _ _ read => (kept_of_kind read).1)
  | kindMaxAgeDays name =>
    exact drawn_ofFile_none (kept_bind (holds.kinds name) fun _ _ read => (kept_of_kind read).2)
  | hookCommand => exact drawn_hookCommand holds
  | hookSeconds => exact drawn_ofFile holds.timeout
  | waitSeconds => exact drawn_ofFile holds.waitTimeout

end Setting

end Retention
