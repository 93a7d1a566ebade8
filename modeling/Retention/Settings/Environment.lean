import Retention.Host.Path
import Retention.Text.Numeral
import Retention.Text.Blank
import Retention.Text.Utf8

/-!
Settings in the environment. A variable that is not UTF-8 counts as unset; one that is set has to be
readable, except that a list of regions without a name in it changes nothing.
-/
namespace Retention

/-- The bytes of each variable that is set. -/
abbrev Environment := String → Option (List UInt8)

namespace Environment

def text? (environment : Environment) (name : String) : Option String :=
  (environment name).bind Text.Utf8.decode?

/-- A path is taken as it is. -/
def path? (environment : Environment) (name : String) : Option Path :=
  (environment name).map (⟨·⟩)

end Environment

/-- Why a variable cannot be read. -/
inductive VariableError
  | notBoolean (name value : String)
  | notNumber (name : String) (cause : Text.WordError)
deriving DecidableEq

namespace VariableError

def name : VariableError → String
  | .notBoolean name _ => name
  | .notNumber name _ => name

def message : VariableError → String
  | .notBoolean _ value => "invalid boolean: " ++ value ++ " (expected true|false|1|0|yes|no|on|off)"
  | .notNumber _ cause => cause.message

end VariableError

structure VariableSettings where
  regions : Option (List String)
  allRegions : Option Bool
  maxAgeDays : Option UInt64
  workers : Option UInt64
  logToConsole : Option Bool
  logToFile : Option Bool
deriving DecidableEq

namespace VariableSettings

def boolean? (text : String) : Option Bool :=
  match text with
  | "1" | "true" | "yes" | "on" => some true
  | "0" | "false" | "no" | "off" => some false
  | _ => none

def readBoolean (environment : Environment) (name : String) : Except VariableError (Option Bool) :=
  match environment.text? name with
  | none => .ok none
  | some text =>
    let value := Text.lowerAscii (Text.trim text)
    match boolean? value with
    | some truth => .ok (some truth)
    | none => .error (.notBoolean name value)

def readNumber (environment : Environment) (name : String) : Except VariableError (Option UInt64) :=
  match environment.text? name with
  | none => .ok none
  | some text =>
    match Text.readWord (Text.trim text) with
    | .ok number => .ok (some number)
    | .error cause => .error (.notNumber name cause)

/-- The names between commas. -/
def regions? (environment : Environment) : Option (List String) :=
  match environment.text? "TAGSWEEP_REGIONS" with
  | none => none
  | some text =>
    let names := ((Text.splitOn ',' text).map Text.trim).filter fun name => !name.isEmpty
    if names.isEmpty then none else some names

/-- The first variable that cannot be read is the error. -/
def read (environment : Environment) : Except VariableError VariableSettings := do
  return {
    regions := regions? environment
    allRegions := ← readBoolean environment "TAGSWEEP_REGIONS_ALL"
    maxAgeDays := ← readNumber environment "TAGSWEEP_MAX_AGE_DAYS"
    workers := ← readNumber environment "TAGSWEEP_WORKERS"
    logToConsole := ← readBoolean environment "TAGSWEEP_LOGS_CONSOLE"
    logToFile := ← readBoolean environment "TAGSWEEP_LOGS_FILE" }

end VariableSettings
end Retention
