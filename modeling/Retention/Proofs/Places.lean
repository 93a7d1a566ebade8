import Retention.Proofs.Settings
import Retention.Proofs.Toml.WellFormed

/-!
Where each setting stands. It has one variable of the environment, or none, and one key of the file; the
variable goes before the key, and the key before the value that holds without either.
-/
namespace Retention

/-! Values under a key. -/

namespace Toml

/-- The value of one field of a record with these fields. -/
def field? (names : List String) (name : String) : Toml → Option Toml
  | .table entries => entries.lookup name
  | .array items => items[names.idxOf name]?
  | _ => none

def under? (key : String) : Toml → Option Toml
  | .table entries => entries.lookup key
  | _ => none

theorem fields?_eq {value : Toml} {names : List String} {fields : List (Option Toml)}
    (distinct : names.Nodup) (found : value.fields? names = some fields) :
    fields = names.map fun name => value.field? names name := by
  unfold fields? at found
  split at found
  · cases found
    rfl
  · cases found
    rfl
  · obtain ⟨enough, same⟩ := Option.ite_none_right_eq_some.mp found
    cases same
    refine List.ext_getElem (by simp [enough]) fun i below inside => ?_
    have named : i < names.length := by simpa using inside
    simp [field?, distinct.idxOf_getElem i named, Nat.lt_of_lt_of_le named enough]
  · cases found

theorem wellFormed_field? {value field : Toml} {names : List String} {name : String}
    (formed : value.WellFormed) (found : value.field? names name = some field) : field.WellFormed := by
  unfold field? at found
  split at found
  · obtain ⟨before, after, split, -⟩ := List.lookup_eq_some_iff.mp found
    exact (wellFormed_table.mp formed).2 (name, field) (by simp [split])
  · exact wellFormed_array.mp formed field (List.mem_of_getElem? found)
  · cases found

end Toml

/-! What each setting is drawn from. -/

namespace FileSettings

def generalNames : List String := ["regions", "regions_all", "workers"]

def loggingNames : List String := ["console", "file"]

def accountNames : List String := ["main", "second"]

def secondNames : List String := ["id", "role_to_assume"]

def kindNames : List String := ["mode", "max_age_days"]

def executorNames : List String := ["command", "timeout_secs", "wait_timeout_secs"]

/-- The value under a key of a section with these fields. -/
def inSection (head : String) (names : List String) (name : String) (document : Toml) : Option Toml :=
  (document.field? sectionNames head).bind (·.field? names name)

def inCleanup (key : String) (document : Toml) : Option Toml :=
  (document.field? sectionNames "cleanup").bind (·.under? key)

/-- The entry of a kind. The general threshold is none. -/
def kindEntry (name : String) (document : Toml) : Option Toml :=
  if name = thresholdKey then none else inCleanup name document

end FileSettings

/-- A setting by itself: its place among the settings, in the environment and in the file, how it is read
there, and its value where it is in neither. -/
structure Setting (α : Type) where
  get : Settings → α
  /-- The text of its variable, where that is set and says something. -/
  inEnvironment : Environment → Option String
  ofText : String → Option α
  /-- What stands under its key. -/
  inFile : Toml → Option Toml
  ofToml : Toml → Option α
  standard : α

namespace Setting

open FileSettings

variable {α : Type}

def boolean (get : Settings → Bool) (name : String) (inFile : Toml → Option Toml) (standard : Bool) :
    Setting Bool where
  get
  inEnvironment environment := environment.text? name
  ofText text := VariableSettings.boolean? (Text.lowerAscii (Text.trim text))
  inFile
  ofToml := Toml.bool?
  standard

def number (get : Settings → UInt64) (name : String) (inFile : Toml → Option Toml) (standard : UInt64) :
    Setting UInt64 where
  get
  inEnvironment environment := environment.text? name
  ofText text := Text.word64? (Text.trim text)
  inFile
  ofToml := Toml.word64?
  standard

/-- A setting without a variable. -/
def ofFile (get : Settings → α) (inFile : Toml → Option Toml) (ofToml : Toml → Option α) (standard : α) :
    Setting α where
  get
  inEnvironment _ := none
  ofText _ := none
  inFile
  ofToml
  standard

/-- The names between commas, without those of blanks alone. -/
def listed (text : String) : List String := Region.named (Text.splitOn ',' text)

/-- A variable without a name in it says nothing. -/
def regions : Setting (List String) where
  get := Settings.regions
  inEnvironment environment :=
    (environment.text? "TAGSWEEP_REGIONS").filter fun text => !(listed text).isEmpty
  ofText text := some (listed text)
  inFile := inSection "general" generalNames "regions"
  ofToml := Toml.list? Toml.text?
  standard := ["us-east-1"]

def allRegions : Setting Bool := boolean Settings.allRegions "TAGSWEEP_REGIONS_ALL"
  (inSection "general" generalNames "regions_all") false

def workers : Setting UInt64 := number Settings.workers "TAGSWEEP_WORKERS"
  (inSection "general" generalNames "workers") 4

def logToConsole : Setting Bool := boolean Settings.logToConsole "TAGSWEEP_LOGS_CONSOLE"
  (inSection "logging" loggingNames "console") true

def logToFile : Setting Bool := boolean Settings.logToFile "TAGSWEEP_LOGS_FILE"
  (inSection "logging" loggingNames "file") false

def maxAgeDays : Setting UInt64 := number Settings.maxAgeDays "TAGSWEEP_MAX_AGE_DAYS"
  (inCleanup thresholdKey) 30

def mainId : Setting (Option String) := ofFile Settings.mainId
  (fun document => (inSection "accounts" accountNames "main" document).bind (·.field? ["id"] "id"))
  (fun value => value.text?.map some) none

def secondId : Setting (Option String) := ofFile (fun settings => settings.second.bind (·.id))
  (fun document => (inSection "accounts" accountNames "second" document).bind (·.field? secondNames "id"))
  (fun value => value.text?.map some) none

def secondRole : Setting (Option String) := ofFile (fun settings => settings.second.map (·.role))
  (fun document =>
    (inSection "accounts" accountNames "second" document).bind (·.field? secondNames "role_to_assume"))
  (fun value => value.text?.map some) none

/-- Whether a name has an entry of its own. -/
def kindListed (name : String) : Setting Bool := ofFile (fun settings => settings.kinds.contains name)
  (kindEntry name) (fun _ => some true) false

def kindMode (name : String) : Setting (Option String) :=
  ofFile (fun settings => (settings.kinds.get? name).bind (·.mode))
    (fun document => (kindEntry name document).bind (·.field? kindNames "mode"))
    (fun value => value.text?.map some) none

def kindMaxAgeDays (name : String) : Setting (Option UInt64) :=
  ofFile (fun settings => (settings.kinds.get? name).bind (·.maxAgeDays))
    (fun document => (kindEntry name document).bind (·.field? kindNames "max_age_days"))
    (fun value => value.word64?.map some) none

/-- The command is taken without the blanks around it, and one of blanks alone is none. -/
def hookCommand : Setting (Option String) := ofFile Settings.hookCommand
  (inSection "executor" executorNames "command")
  (fun value => value.text?.map fun text => if Text.trim text = "" then none else some (Text.trim text)) none

def hookSeconds : Setting UInt64 := ofFile Settings.hookSeconds
  (inSection "executor" executorNames "timeout_secs") Toml.word64? 60

def waitSeconds : Setting UInt64 := ofFile Settings.waitSeconds
  (inSection "executor" executorNames "wait_timeout_secs") Toml.word64? 180

/-- The settings of the program. -/
inductive OfProgram : {α : Type} → Setting α → Prop
  | regions : OfProgram regions
  | allRegions : OfProgram allRegions
  | workers : OfProgram workers
  | logToConsole : OfProgram logToConsole
  | logToFile : OfProgram logToFile
  | maxAgeDays : OfProgram maxAgeDays
  | mainId : OfProgram mainId
  | secondId : OfProgram secondId
  | secondRole : OfProgram secondRole
  | kindListed (name : String) : OfProgram (kindListed name)
  | kindMode (name : String) : OfProgram (kindMode name)
  | kindMaxAgeDays (name : String) : OfProgram (kindMaxAgeDays name)
  | hookCommand : OfProgram hookCommand
  | hookSeconds : OfProgram hookSeconds
  | waitSeconds : OfProgram waitSeconds

/-- The value that a setting has by its variable, its key, or without them. -/
inductive Drawn (setting : Setting α) (environment : Environment) (document : Toml) : α → Prop
  | fromEnvironment {text value} (set : setting.inEnvironment environment = some text)
      (read : setting.ofText text = some value) : Drawn setting environment document value
  | fromFile {found value} (unset : setting.inEnvironment environment = none)
      (present : setting.inFile document = some found) (read : setting.ofToml found = some value) :
      Drawn setting environment document value
  | byDefault (unset : setting.inEnvironment environment = none)
      (absent : setting.inFile document = none) : Drawn setting environment document setting.standard

variable {setting : Setting α} {environment : Environment} {document : Toml}

namespace Drawn

theorem unique {value other : α} (drawn : setting.Drawn environment document value)
    (again : setting.Drawn environment document other) : value = other := by
  cases drawn <;> cases again <;> simp_all

/-- Other variables and keys do not matter. -/
theorem transfer {environment' : Environment} {document' : Toml} {value : α}
    (drawn : setting.Drawn environment document value)
    (sameText : setting.inEnvironment environment = setting.inEnvironment environment')
    (sameKey : setting.inFile document = setting.inFile document') :
    setting.Drawn environment' document' value := by
  cases drawn with
  | fromEnvironment set read => exact .fromEnvironment (sameText ▸ set) read
  | fromFile unset present read => exact .fromFile (sameText ▸ unset) (sameKey ▸ present) read
  | byDefault unset absent => exact .byDefault (sameText ▸ unset) (sameKey ▸ absent)

theorem ofText_eq {text : String} {value : α} (drawn : setting.Drawn environment document value)
    (set : setting.inEnvironment environment = some text) : setting.ofText text = some value := by
  cases drawn with
  | fromEnvironment told read => exact Option.some.inj (told.symm.trans set) ▸ read
  | fromFile unset _ _ => cases unset.symm.trans set
  | byDefault unset _ => cases unset.symm.trans set

theorem ofToml_eq {found : Toml} {value : α} (drawn : setting.Drawn environment document value)
    (unset : setting.inEnvironment environment = none) (present : setting.inFile document = some found) :
    setting.ofToml found = some value := by
  cases drawn with
  | fromEnvironment set _ => cases unset.symm.trans set
  | fromFile _ told read => exact Option.some.inj (told.symm.trans present) ▸ read
  | byDefault _ absent => cases absent.symm.trans present

/-- The first of the two places that has a value gives it. -/
theorem of_sources (setting : Setting α) (fromText fromKey : Option α)
    (told : (setting.inEnvironment environment).map setting.ofText = fromText.map some)
    (kept : (setting.inFile document).map setting.ofToml = fromKey.map some) :
    setting.Drawn environment document ((fromText.or fromKey).getD setting.standard) := by
  cases set : setting.inEnvironment environment with
  | some text =>
    cases fromText with
    | none => simp [set] at told
    | some value => exact .fromEnvironment set (by simpa [set] using told)
  | none =>
    cases fromText with
    | some value => simp [set] at told
    | none =>
      cases present : setting.inFile document with
      | some found =>
        cases fromKey with
        | none => simp [present] at kept
        | some value => exact .fromFile set present (by simpa [present] using kept)
      | none =>
        cases fromKey with
        | some value => simp [present] at kept
        | none => exact .byDefault set present

end Drawn

end Setting

end Retention
