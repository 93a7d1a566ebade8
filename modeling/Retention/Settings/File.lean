import Retention.Settings.Basic
import Retention.Toml.Basic

/-!
Settings in a file. Unknown keys are skipped; a known key has to hold a value of its type. In the
section on cleanup every key but the general threshold names a kind.
-/
namespace Retention

structure FileSettings where
  regions : Option (List String)
  allRegions : Option Bool
  workers : Option UInt64
  logToConsole : Option Bool
  logToFile : Option Bool
  mainId : Option String
  second : Option SecondAccount
  maxAgeDays : Option UInt64
  kinds : Dictionary KindSettings
  hookCommand : Option String
  hookSeconds : Option UInt64
  waitSeconds : Option UInt64
deriving DecidableEq

namespace KindSettings

/-- As an array, the entry of a kind has its fields and nothing more. -/
def ofToml? (value : Toml) : Option KindSettings := do
  let [mode, maxAgeDays] ← value.fields? ["mode", "max_age_days"] | none
  match value with
  | .array (_ :: _ :: _ :: _) => none
  | _ => some {
      mode := ← Toml.optional Toml.text? mode
      maxAgeDays := ← Toml.optional Toml.word64? maxAgeDays }

end KindSettings

namespace SecondAccount

def ofToml? (value : Toml) : Option SecondAccount := do
  let [id, role] ← value.fields? ["id", "role_to_assume"] | none
  some { id := ← Toml.optional Toml.text? id, role := ← role.bind Toml.text? }

end SecondAccount

namespace FileSettings

/-- The fields of a section, which may be left out as a whole. -/
def sectionFields (names : List String) : Option Toml → Option (List (Option Toml))
  | none => some (names.map fun _ => none)
  | some value => value.fields? names

def mainId? (account : Option Toml) : Option (Option String) := do
  let [id] ← sectionFields ["id"] account | none
  Toml.optional Toml.text? id

def thresholdKey : String := "max_age_days"

def cleanup? : Option Toml → Option (Option UInt64 × Dictionary KindSettings)
  | none => some (none, ∅)
  | some (.table entries) => do
    let maxAgeDays ← Toml.optional Toml.word64? (entries.lookup thresholdKey)
    let kinds ← (entries.filter (·.1 != thresholdKey)).mapM fun entry => do
      return (entry.1, ← KindSettings.ofToml? entry.2)
    some (maxAgeDays, .ofList kinds)
  | some _ => none

/-- A command of blanks alone is none. -/
def command? (text : String) : Option String :=
  let command := Text.trim text
  if command.isEmpty then none else some command

def ofToml? (document : Toml) : Option FileSettings := do
  let [general, logging, accounts, cleanup, executor] ← document.fields?
    ["general", "logging", "accounts", "cleanup", "executor"] | none
  let [regions, allRegions, workers] ←
    sectionFields ["regions", "regions_all", "workers"] general | none
  let [console, file] ← sectionFields ["console", "file"] logging | none
  let [main, second] ← sectionFields ["main", "second"] accounts | none
  let (maxAgeDays, kinds) ← cleanup? cleanup
  let [command, timeout, waitTimeout] ←
    sectionFields ["command", "timeout_secs", "wait_timeout_secs"] executor | none
  some {
    regions := ← Toml.optional (Toml.list? Toml.text?) regions
    allRegions := ← Toml.optional Toml.bool? allRegions
    workers := ← Toml.optional Toml.word64? workers
    logToConsole := ← Toml.optional Toml.bool? console
    logToFile := ← Toml.optional Toml.bool? file
    mainId := ← mainId? main
    second := ← Toml.optional SecondAccount.ofToml? second
    maxAgeDays
    kinds
    hookCommand := (← Toml.optional Toml.text? command).bind command?
    hookSeconds := ← Toml.optional Toml.word64? timeout
    waitSeconds := ← Toml.optional Toml.word64? waitTimeout }

end FileSettings
end Retention
