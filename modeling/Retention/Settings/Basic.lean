import Retention.Dictionary
import Retention.Host.Path
import Retention.Settings.Regions

/-!
The settings of the program. What no file and no variable of the environment sets has the value given
here.
-/
namespace Retention

/-- The cleanup of one kind, as configured. -/
structure KindSettings where
  mode : Option String
  maxAgeDays : Option UInt64
deriving DecidableEq

structure SecondAccount where
  id : Option String
  role : String
deriving DecidableEq

structure Settings where
  regions : List String := ["us-east-1"]
  allRegions : Bool := false
  workers : UInt64 := 4
  logToConsole : Bool := true
  logToFile : Bool := false
  mainId : Option String := none
  second : Option SecondAccount := none
  maxAgeDays : UInt64 := 30
  /-- Under the names that are used in the file. -/
  kinds : Dictionary KindSettings := ∅
  hookCommand : Option String := none
  hookSeconds : UInt64 := 60
  waitSeconds : UInt64 := 180
  /-- The file that was read. -/
  path : Option Path := none
deriving DecidableEq

namespace Settings

/-- The regions to sweep, and the configured names that were set aside. -/
def resolveRegions (settings : Settings) : List String × List String :=
  if settings.allRegions then (Region.known, [])
  else (Region.valid settings.regions, Region.dropped settings.regions)

end Settings
end Retention
