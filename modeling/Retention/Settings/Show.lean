import Retention.Json.Basic
import Retention.Settings.Basic
import Retention.Toml.Basic

/-!
Settings as they are shown, in the order of their sections. Absent values have no entry.
-/
namespace Retention

namespace Toml

def word (value : UInt64) : Toml := .int value.toNat

def entry (key : String) (value : Option Toml) : List (String × Toml) :=
  value.toList.map fun value => (key, value)

mutual
def toJson : Toml → Json
  | .str value => .str value
  | .int value => .int value
  | .float spelling => .decimal spelling
  | .bool value => .bool value
  | .moment spelling => .str spelling
  | .array items => .array (itemsToJson items)
  | .table entries => .object (entriesToJson entries)

def itemsToJson : List Toml → List Json
  | [] => []
  | item :: items => item.toJson :: itemsToJson items

def entriesToJson : List (String × Toml) → List (String × Json)
  | [] => []
  | (key, value) :: entries => (key, value.toJson) :: entriesToJson entries
end

end Toml

def KindSettings.toToml (settings : KindSettings) : Toml := .table <|
  Toml.entry "mode" (settings.mode.map .str) ++
    Toml.entry "max_age_days" (settings.maxAgeDays.map .word)

def SecondAccount.toToml (account : SecondAccount) : Toml := .table <|
  Toml.entry "id" (account.id.map .str) ++ [("role_to_assume", .str account.role)]

namespace Settings

def toToml (settings : Settings) : Toml := .table <|
  [("general", .table
      [("regions", .array (settings.regions.map .str)), ("regions_all", .bool settings.allRegions),
       ("workers", .word settings.workers)]),
   ("logging", .table
      [("console", .bool settings.logToConsole), ("file", .bool settings.logToFile)]),
   ("accounts", .table <|
      ("main", .table (Toml.entry "id" (settings.mainId.map .str))) ::
        Toml.entry "second" (settings.second.map (·.toToml))),
   ("cleanup", .table
      [("max_age_days", .word settings.maxAgeDays),
       ("kinds", .table (settings.kinds.entries.map fun kind => (kind.1, kind.2.toToml)))]),
   ("executor", .table <|
      Toml.entry "command" (settings.hookCommand.map .str) ++
        [("timeout_secs", .word settings.hookSeconds),
         ("wait_timeout_secs", .word settings.waitSeconds)])] ++
  Toml.entry "config_path" (settings.path.map fun path => .str path.text)

end Settings
end Retention
