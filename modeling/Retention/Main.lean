import Retention.CommandLine.Program
import Std.Time.DateTime.Timestamp

/-!
The command line. The host of a run is the machine that it runs on, but for starting programs, which
this host refuses to do.
-/
namespace Retention

/-- What the number of a system error says of a path. -/
def StorageError.ofNumber : Nat → StorageError
  | 2 => .absent
  | 13 => .denied
  | 17 => .exists
  | 20 => .notDirectory
  | 21 => .isDirectory
  | 36 => .tooLong
  | _ => .unsupported

def StorageError.ofSystem : IO.Error → StorageError
  | .noFileOrDirectory _ number _ | .permissionDenied _ number _ | .alreadyExists _ number _
  | .inappropriateType _ number _ | .invalidArgument _ number _ | .resourceExhausted _ number _ =>
    ofNumber number.toNat
  | _ => .unsupported

namespace Program

/-- The variables that a run reads. -/
def variableNames : List String :=
  ["HOME", "TAGSWEEP_CONFIG", "TAGSWEEP_REGIONS", "TAGSWEEP_REGIONS_ALL", "TAGSWEEP_MAX_AGE_DAYS",
    "TAGSWEEP_WORKERS", "TAGSWEEP_LOGS_CONSOLE", "TAGSWEEP_LOGS_FILE"]

def readEnvironment : IO Environment := do
  let found ← variableNames.filterMapM fun name => do
    return (← IO.getEnv name).map fun value => (name, value.toUTF8.toList)
  return fun name => List.lookup name found

def now : IO Instant := do
  let nanos := (← Std.Time.Timestamp.now).toNanosecondsSinceUnixEpoch.val
  let nano := (nanos % Instant.nanosPerSecond).toNat
  match Instant.ofUnix? (nanos / Instant.nanosPerSecond) nano with
  | some instant => return instant
  | none => throw (IO.userError "the clock is out of range")

def attempt {α : Type} (action : IO α) : IO (Except StorageError α) := do
  match ← action.toBaseIO with
  | .ok value => return .ok value
  | .error error => return .error (.ofSystem error)

def look (path : Path) : IO (Except StorageError FileNode) := do
  match ← attempt (IO.FS.readBinFile path.text) with
  | .ok content => return .ok (.file content.toList)
  | .error .isDirectory => return .ok .directory
  | .error failure => return .error failure

partial def readLine (input : IO.FS.Stream) (line : List UInt8) : IO (List UInt8) := do
  let next ← input.read 1
  if next.isEmpty then return line
  let line := line ++ next.toList
  if next.toList = [10] then return line else readLine input line

/-- The number that the system lists for a running process comes first in what it says of it. -/
def processId : IO Nat := do
  match ← attempt (IO.FS.readFile "/proc/self/stat") with
  | .ok text => return ((Text.words text).head?.bind String.toNat?).getD 0
  | .error _ => return 0

def systemHost : IO (Host IO) := do
  let input ← IO.getStdin
  let output ← IO.getStdout
  let errors ← IO.getStderr
  return {
    environment := ← readEnvironment
    inputIsTerminal := ← input.isTty
    outputIsTerminal := ← output.isTty
    errorsAreTerminal := ← errors.isTty
    processId := ← processId
    now
    look
    makeDirectory := fun path => attempt (IO.FS.createDirAll path.text)
    writeFile := fun path content => attempt (IO.FS.writeFile path.text content)
    print := fun text => do
      output.putStr text
      output.flush
    printError := errors.putStr
    readLine := readLine input []
    launch := fun _ _ => return .notStarted StorageError.unsupported.message }

end Program
end Retention

def main (arguments : List String) : IO UInt32 := do
  let host ← Retention.Program.systemHost
  return (← Retention.Program.run host arguments).toUInt32
