import Retention.CommandLine.Arguments
import Retention.CommandLine.Target
import Retention.CommandLine.Text
import Retention.Host.Basic
import Retention.Json.Print
import Retention.Report.Markdown
import Retention.Report.RunLog
import Retention.Report.Terminal
import Retention.Settings.Load
import Retention.Settings.Show
import Retention.Toml.Print

/-!
The program. A plan judges an inventory and changes nothing; an application judges it, asks, carries
the operations out and leaves a log. Whatever goes wrong ends the run with a text and an exit code.
-/
namespace Retention

/-- Why a run ends early. -/
inductive Stop
  | failed (failure : Failure)
  | undefinedAge
deriving DecidableEq

/-- A part of a run, which may end early. -/
abbrev Run (m : Type → Type) := ExceptT Stop m

namespace Program

variable {m : Type → Type} [Monad m]

def fail {α : Type} (failure : Failure) : Run m α := throw (.failed failure)

def refuse {α : Type} (message : String) : Run m α := fail (.invalidArguments message)

/-- Goes on with a value, or ends the run with the failure that the error stands for. -/
def orFail {ε α : Type} (failure : ε → Failure) : Except ε α → Run m α
  | .ok value => pure value
  | .error error => fail (failure error)

/-- What the commands share: the host, the options for every command, and the settings. -/
structure Context (m : Type → Type) where
  host : Host m
  line : CommandLine
  settings : Settings
  home : Path

def logDirectory (home : Path) : Path := home.join (.ofText ".config/tagsweep/logs")

def logDirectoryFailure (directory : Path) (cause : StorageError) : Failure :=
  .context ("failed to create log directory: " ++ directory.text) (.plain cause.message)

/-- The path of a new log, whose directory is made if it is missing. -/
def newLog (host : Host m) (home : Path) (stem extension : String) : Run m Path := do
  let directory := logDirectory home
  orFail (logDirectoryFailure directory) (← host.makeDirectory directory)
  let moment := (← host.now).unixNanos
  let name := stem ++ "-" ++ toString host.processId ++ "-" ++ toString moment ++ "." ++ extension
  return directory.join (.ofText name)

def writeLog (host : Host m) (what : String) (path : Path) (content : String) : Run m Unit := do
  orFail (fun cause => .context ("failed to " ++ what ++ ": " ++ path.text) (.plain cause.message))
    (← host.writeFile path content)

/-- Starts the diagnostic log, if the settings ask for one. -/
def startLog (host : Host m) (home : Path) (settings : Settings) : Run m Unit := do
  if settings.logToFile then
    writeLog host "create log file" (← newLog host home "sweep" "log") ""

def loadSettings (host : Host m) (line : CommandLine) (home : Path) : Run m Settings := do
  let path := Settings.pathFor (line.configPath.map .ofText) host.environment home
  let found ← host.look path
  orFail (fun error => .withCode .invalidArguments error.failure)
    (Settings.load line.configPath.isSome path found host.environment)

namespace Context

def print (context : Context m) (text : String) : Run m Unit := context.host.print text

/-- Prints what is no result, unless the run is to be quiet. -/
def printUnlessQuiet (context : Context m) (text : String) : Run m Unit :=
  if context.line.quiet then pure () else context.print text

def colour (context : Context m) : Bool :=
  context.host.outputIsTerminal && !context.line.noColour

def printJson (context : Context m) (value : Json) : Run m Unit :=
  context.print (value.pretty ++ "\n")

def kindsFor (targets : List String) : Run m (List Kind) :=
  orFail (fun target => .invalidArguments (Target.unknownMessage target)) (Target.resolve targets)

/-- The request of a sweep over the chosen accounts and kinds. -/
def request (settings : Settings) (accounts : List Account) (kinds : List Kind) (dryRun : Bool)
    (now : Instant) : Except PolicyError Request := do
  let policies ← settings.resolvePolicies kinds
  return {
    accounts
    regions := settings.resolveRegions.1
    kinds
    policies
    dryRun
    workers := settings.workers.toNat
    now }

def requestNow (context : Context m) (accounts : List Account) (kinds : List Kind)
    (dryRun : Bool) : Run m Request := do
  let now ← context.host.now
  orFail .policy (request context.settings accounts kinds dryRun now)

def openCapture (context : Context m) (path : String) : Run m Capture := do
  orFail (fun error => error.failure path) (Capture.read (← context.host.look (.ofText path)))

def orStop {α : Type} : Except SweepError α → Run m α
  | .ok value => pure value
  | .error (.policyMissing kind) => fail (.policy (.missing kind))
  | .error .executorMissing => fail (.plain SweepError.executorMissingMessage)
  | .error .undefinedAge => throw .undefinedAge

/-- The report of a dry run. -/
def preview (capture : Capture) (request : Request) : Run m Report := do
  let (report, _) ← orStop (Id.run (request.run false capture.lister.answer))
  return report

def reportJson (report : Report) : Run m Json :=
  match report.toJson? with
  | some value => pure value
  | none => fail (.plain "The year component cannot be formatted into the requested format.")

def emit (context : Context m) (report : Report) (markdown : Bool) : Run m Unit := do
  if context.line.json then context.printJson (← reportJson report)
  else if markdown then context.print (Markdown.document report)
  else context.printUnlessQuiet (Terminal.reportText context.colour report)

def plan (context : Context m) (options : SweepOptions) : Run m Unit := do
  let kinds ← kindsFor options.targets
  let request ← context.requestNow options.accounts kinds true
  let capture ← context.openCapture options.inventory
  context.emit (← preview capture request) options.markdown

def confirmation : String := "apply"

/-- Asks whether to go on. Blanks around the answer do not count. -/
def confirm (context : Context m) (count : Nat) : Run m Bool := do
  context.host.printError
    (toString count ++ " operation(s) will be applied. Type 'apply' to continue: ")
  let line ← context.host.readLine
  match Text.Utf8.decode? line with
  | some answer => return Text.trim answer = confirmation
  | none => fail (.plain StorageError.notText.message)

/-- Whether to go on with the operations of a preview. -/
def approve (context : Context m) (report : Report) : Run m Bool := do
  context.printUnlessQuiet (Terminal.previewText context.colour report)
  if !(context.host.inputIsTerminal && context.host.outputIsTerminal) then
    refuse "apply needs a TTY to confirm (stdin + stdout); pass --yes to skip"
  let approved ← context.confirm report.pending.length
  if !approved then context.printUnlessQuiet "aborted\n"
  return approved

def hookFor (settings : Settings) (command : String) : Run m Hook :=
  let seconds := fun count : UInt64 => Span.ofMillis (count.toNat * 1000)
  let role := settings.second.map (·.role)
  match Hook.ofCommand? command (seconds settings.hookSeconds) (seconds settings.waitSeconds) role with
  | some hook => pure hook
  | none => refuse Hook.emptyCommandMessage

/-- Carries a request out, logs the run and shows its report. -/
def carryOut (context : Context m) (options : SweepOptions) (kinds : List Kind) (capture : Capture)
    (hook : Hook) : Run m Unit := do
  let request ← context.requestNow options.accounts kinds false
  let startedAt ← context.host.now
  let answer := hook.answer capture.lister context.host.launch
  let result ← (request.run true answer : m _)
  let (report, _) ← orStop result
  let finishedAt ← context.host.now
  let path ← newLog context.host context.home "run" "json"
  writeLog context.host "write run log" path (RunLog.document startedAt finishedAt report).pretty
  context.emit report options.markdown
  let failed := report.executionErrorCount
  if failed > 0 then
    fail (.executionFailed
      (toString failed ++ " execution problem(s) during apply; see " ++ path.text))

/-- What an application goes on with; nothing where nothing is pending or it is not approved. -/
def opening (context : Context m) (options : SweepOptions) (confirmed : Bool) :
    Run m (Option (List Kind × Capture × Hook)) := do
  if context.line.json && !confirmed then refuse "apply --json requires --yes"
  let some command := context.settings.hookCommand
    | refuse "apply needs an executor hook: set executor.command in the config file"
  if options.accounts.contains .second && context.settings.second.isNone then
    refuse "the second account is not configured ([accounts.second] role_to_assume)"
  let kinds ← kindsFor options.targets
  let request ← context.requestNow options.accounts kinds true
  let capture ← context.openCapture options.inventory
  let report ← preview capture request
  if report.pending.isEmpty then
    if context.line.json then context.printJson (← reportJson report)
    else context.printUnlessQuiet "nothing to apply\n"
    return none
  else
    let approved ← if confirmed then pure true else context.approve report
    if approved then
      let hook ← hookFor context.settings command
      return some (kinds, capture, hook)
    else return none

def apply (context : Context m) (options : SweepOptions) (confirmed : Bool) : Run m Unit := do
  match ← context.opening options confirmed with
  | some (kinds, capture, hook) => context.carryOut options kinds capture hook
  | none => pure ()

def policyJson (entry : Kind × Policy) : Json := .object
  [("description", .str entry.2.description), ("kind", entry.1.toJson),
   ("max_age_days", .word entry.2.maxAgeDays), ("mode", .str entry.2.mode.name)]

def policy (context : Context m) (targets : List String) : Run m Unit := do
  let kinds ← kindsFor targets
  let policies ← orFail .policy (context.settings.resolvePolicies kinds)
  if context.line.json then context.printJson (.array (policies.entries.map policyJson))
  else context.printUnlessQuiet (Terminal.policiesText policies)

def completion (context : Context m) (shell : String) : Run m Unit :=
  match CommandLine.Shell.parse? shell with
  | some shell => context.print shell.script
  | none => refuse (CommandLine.Shell.unsupportedMessage shell)

def config (context : Context m) (shown : Bool) : Run m Unit := do
  let table := context.settings.toToml
  if !shown then
    if context.line.quiet then return
    context.host.printError "config: use \x60tagsweep config --show\x60\n"
  else if context.line.json then context.printJson table.toJson
  else if table.isWritable then context.print (table.document ++ "\n")
  else fail (.plain "out-of-range value for u64 type")

def run (context : Context m) : Run m Unit :=
  match context.line.command with
  | .plan options => context.plan options
  | .apply options confirmed => context.apply options confirmed
  | .policy targets => context.policy targets
  | .completion shell => context.completion shell
  | .config shown => context.config shown

end Context

def runLine (host : Host m) (line : CommandLine) : Run m Unit := do
  let some home := host.environment.path? "HOME" | fail (.plain "HOME is not set")
  let settings ← loadSettings host line home
  startLog host home settings
  Context.run { host, line, settings, home }

/-- The exit code of a run that met an undefined age. -/
def undefinedAgeCode : Nat := 101

/-- Runs the program with its arguments, and gives its exit code. -/
def run (host : Host m) (arguments : List String) : m Nat := do
  match CommandLine.parse arguments with
  | .error .help => host.print CommandLine.usageText; return 0
  | .error .version => host.print CommandLine.versionText; return 0
  | .error .usage =>
    host.printError CommandLine.usageText
    return ExitCode.invalidArguments.number
  | .ok line =>
    match ← (runLine host line).run with
    | .ok () => return 0
    | .error (.failed failure) =>
      host.printError failure.text
      return failure.exitCode.number
    | .error .undefinedAge =>
      host.printError "the age of a resource is undefined\n"
      return undefinedAgeCode

end Program
end Retention
