import Retention.Failure
import Retention.Host.Storage
import Retention.Settings.File
import Retention.Settings.Environment
import Retention.Toml.Document

/-!
Loading settings. A variable of the environment goes before the file, and the file before the value
that holds without either. The file is the one given, or the one that the environment names, or the
one in the home directory; only a file that was given has to exist.
-/
namespace Retention

inductive SettingsError
  | notFound (path : Path)
  | unreadable (path : Path) (cause : StorageError)
  | malformed (path : Path)
  | badVariable (cause : VariableError)
  | noWorkers
deriving DecidableEq

def SettingsError.failure : SettingsError → Failure
  | .notFound path => .plain ("config file not found: " ++ path.text)
  | .unreadable path cause =>
    .context ("failed to read config file: " ++ path.text) (.plain cause.message)
  | .malformed path => .plain ("failed to parse config file (TOML): " ++ path.text)
  | .badVariable cause => .context cause.name (.plain cause.message)
  | .noWorkers => .plain "general.workers must be at least 1"

namespace FileSettings

def empty : FileSettings :=
  ⟨none, none, none, none, none, none, none, none, ∅, none, none, none⟩

def read (path : Path) (node : FileNode) : Except SettingsError FileSettings :=
  match node.text with
  | .error cause => .error (.unreadable path cause)
  | .ok text =>
    match (Toml.parse? text).bind ofToml? with
    | some settings => .ok settings
    | none => .error (.malformed path)

end FileSettings

namespace Settings

def defaultPath (home : Path) : Path := home.join (.ofText ".config/tagsweep/config.toml")

/-- The path of the file to read. -/
def pathFor (given : Option Path) (environment : Environment) (home : Path) : Path :=
  (given.or (environment.path? "TAGSWEEP_CONFIG")).getD (defaultPath home)

/-- Each setting from the first place that has it. -/
def merge (file : FileSettings) (environment : VariableSettings) (path : Option Path) : Settings :=
  let standard : Settings := {}
  { regions := (environment.regions.or file.regions).getD standard.regions
    allRegions := (environment.allRegions.or file.allRegions).getD standard.allRegions
    workers := (environment.workers.or file.workers).getD standard.workers
    logToConsole := (environment.logToConsole.or file.logToConsole).getD standard.logToConsole
    logToFile := (environment.logToFile.or file.logToFile).getD standard.logToFile
    mainId := file.mainId
    second := file.second
    maxAgeDays := (environment.maxAgeDays.or file.maxAgeDays).getD standard.maxAgeDays
    kinds := file.kinds
    hookCommand := file.hookCommand
    hookSeconds := file.hookSeconds.getD standard.hookSeconds
    waitSeconds := file.waitSeconds.getD standard.waitSeconds
    path }

/-- The file at the path, unless there is none; then its settings and the path are absent. -/
def readFile (given : Bool) (path : Path) :
    Except StorageError FileNode → Except SettingsError (FileSettings × Option Path)
  | .ok node => (FileSettings.read path node).map (·, some path)
  | .error _ => if given then .error (.notFound path) else .ok (.empty, none)

/-- The settings, from what the chosen path leads to and from the environment. -/
def load (given : Bool) (path : Path) (found : Except StorageError FileNode)
    (environment : Environment) : Except SettingsError Settings := do
  let (file, path) ← readFile given path found
  let environment ← (VariableSettings.read environment).mapError .badVariable
  let settings := merge file environment path
  if settings.workers = 0 then throw .noWorkers else return settings

end Settings
end Retention
