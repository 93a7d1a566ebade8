import Retention.Resource.Kind

/-!
The command line: options for every command, one command, and the options of that command. Options
for every command may stand before and after the command; the later value counts. At each of the two
places a flag or a single value may be given once.
-/
namespace Retention

structure SweepOptions where
  inventory : String
  accounts : List Account
  targets : List String
  markdown : Bool
deriving DecidableEq

inductive Command
  | plan (options : SweepOptions)
  | apply (options : SweepOptions) (confirmed : Bool)
  | policy (targets : List String)
  | completion (shell : String)
  | config (shown : Bool)
deriving DecidableEq

structure CommandLine where
  json : Bool
  noColour : Bool
  verbose : Bool
  quiet : Bool
  configPath : Option String
  command : Command
deriving DecidableEq

/-- What is answered instead of running a command. -/
inductive Refusal
  | usage
  | help
  | version
deriving DecidableEq

namespace CommandLine

inductive Flag
  | json
  | noColour
  | verbose
  | quiet
  | markdown
  | confirmed
  | shown
deriving DecidableEq

inductive ValueOption
  | config
  | inventory
  | account
  | target
deriving DecidableEq

/-- What may be given at one place. -/
structure Grammar where
  commands : List String
  flags : List (String × Flag)
  options : List (String × ValueOption)
  hasPositional : Bool
  hasVersion : Bool

namespace Grammar

def commonFlags : List (String × Flag) :=
  [("json", .json), ("no-color", .noColour), ("verbose", .verbose), ("quiet", .quiet)]

def commonOptions : List (String × ValueOption) := [("config", .config)]

/-- The name under which the help for a command is asked. -/
def helpName : String := "help"

def root : Grammar :=
  { commands := ["plan", "apply", "policy", "completion", "config", helpName]
    flags := commonFlags
    options := commonOptions
    hasPositional := false
    hasVersion := true }

def below (flags : List (String × Flag)) (options : List (String × ValueOption))
    (hasPositional : Bool) : Grammar :=
  { commands := []
    flags := commonFlags ++ flags
    options := commonOptions ++ options
    hasPositional
    hasVersion := false }

def sweepOptions : List (String × ValueOption) :=
  [("inventory", .inventory), ("account", .account), ("target", .target)]

def ofCommand : String → Grammar
  | "plan" => below [("markdown", .markdown)] sweepOptions false
  | "apply" => below [("markdown", .markdown), ("yes", .confirmed)] sweepOptions false
  | "policy" => below [] [("target", .target)] false
  | "completion" => below [] [] true
  | "config" => below [("show", .shown)] [] false
  | _ => below [] [] false

end Grammar

/-- What has been found at one place. -/
structure Found where
  flags : List Flag
  configPath : Option String
  inventory : Option String
  accounts : Option (List Account)
  targets : List String
  positional : Option String
deriving DecidableEq

namespace Found

def empty : Found := ⟨[], none, none, none, [], none⟩

def has (found : Found) (flag : Flag) : Bool := found.flags.contains flag

def addFlag (found : Found) (flag : Flag) : Option Found :=
  if found.has flag then none else some { found with flags := flag :: found.flags }

def accountChoices : List (String × List Account) :=
  [("main", [.main]), ("second", [.second]), ("both", [.main, .second])]

/-- A value may not be set already. -/
def setOnce {α : Type} (present : Option α) (value : Option α) : Option (Option α) :=
  match present, value with
  | none, some value => some (some value)
  | _, _ => none

def path? (value : String) : Option String := if value.isEmpty then none else some value

/-- Targets add up, and each value is split at its commas. -/
def addValue (found : Found) (option : ValueOption) (value : String) : Option Found :=
  match option with
  | .config =>
    (setOnce found.configPath (path? value)).map fun configPath => { found with configPath }
  | .inventory =>
    (setOnce found.inventory (path? value)).map fun inventory => { found with inventory }
  | .account =>
    (setOnce found.accounts (accountChoices.lookup value)).map fun accounts =>
      { found with accounts }
  | .target => some { found with targets := found.targets ++ Text.splitOn ',' value }

end Found

/-- An option that waits for its value, or one that has it. A value is judged when the next option
comes or the arguments end. -/
inductive Pending
  | nothing
  | waiting (option : ValueOption)
  | value (option : ValueOption) (value : String)

structure Reading where
  found : Found
  pending : Pending

namespace Reading

def start : Reading := ⟨.empty, .nothing⟩

def isWaiting (reading : Reading) : Bool :=
  match reading.pending with
  | .waiting _ => true
  | _ => false

/-- Judges what is pending. -/
def settle (reading : Reading) : Except Refusal Found :=
  match reading.pending with
  | .nothing => .ok reading.found
  | .waiting _ => .error .usage
  | .value option value => ((reading.found.addValue option value).map .ok).getD (.error .usage)

def settled (found : Option Found) : Except Refusal Reading :=
  match found with
  | some found => .ok ⟨found, .nothing⟩
  | none => .error .usage

/-- Answers an option that asks for something else than a run. -/
def refuse (reading : Reading) (refusal : Refusal) : Except Refusal Reading := do
  let _ ← reading.settle
  throw refusal

def addPositional (grammar : Grammar) (reading : Reading) (argument : String) :
    Except Refusal Reading := do
  if !grammar.hasPositional || reading.found.positional.isSome then throw .usage
  let found ← reading.settle
  return ⟨{ found with positional := some argument }, .nothing⟩

/-- A long option: its name, and its value if that stands after an equals sign. -/
def addLong (grammar : Grammar) (reading : Reading) (name : String) (value : Option String) :
    Except Refusal Reading := do
  if let some flag := grammar.flags.lookup name then
    if value.isSome then throw .usage
    settled ((← reading.settle).addFlag flag)
  else if let some option := grammar.options.lookup name then
    let found ← reading.settle
    match value with
    | some value => settled (found.addValue option value)
    | none => return ⟨found, .waiting option⟩
  else if value.isSome then throw .usage
  else if name = "help" then reading.refuse .help
  else if name = "version" && grammar.hasVersion then reading.refuse .version
  else throw .usage

/-- Short options ask for help or for the version, so the first of a group decides. -/
def addShort (grammar : Grammar) (reading : Reading) (letter : Char) : Except Refusal Reading :=
  if letter = 'h' then reading.refuse .help
  else if letter = 'V' && grammar.hasVersion then reading.refuse .version
  else throw .usage

def addPlain (grammar : Grammar) (reading : Reading) (argument : String) :
    Except Refusal Reading :=
  match reading.pending with
  | .waiting option => .ok { reading with pending := .value option argument }
  | _ => reading.addPositional grammar argument

/-- The name and the value of a long option. -/
def splitLong (text : List Char) : String × Option String :=
  let name := text.takeWhile (· != '=')
  match text.dropWhile (· != '=') with
  | [] => (.ofList name, none)
  | _ :: value => (.ofList name, some (.ofList value))

def add (grammar : Grammar) (reading : Reading) (argument : String) : Except Refusal Reading :=
  match argument.toList with
  | '-' :: '-' :: rest =>
    let (name, value) := splitLong rest
    reading.addLong grammar name value
  | '-' :: letter :: _ => reading.addShort grammar letter
  | _ => reading.addPlain grammar argument

end Reading

/-- The place where a command was named, with its name and the arguments after it. -/
structure Entered where
  name : String
  rest : List String

/-- Reads the arguments up to the name of a command. After two dashes no argument is an option or the
name of a command. -/
def scan (grammar : Grammar) (onlyPositional : Bool) (reading : Reading) :
    List String → Except Refusal (Reading × Option Entered)
  | [] => .ok (reading, none)
  | argument :: rest =>
    if onlyPositional then do
      scan grammar true (← reading.addPositional grammar argument) rest
    else if !reading.isWaiting && grammar.commands.contains argument then
      .ok (reading, some ⟨argument, rest⟩)
    else if argument = "--" then scan grammar true reading rest
    else do scan grammar false (← reading.add grammar argument) rest

def required {α : Type} : Option α → Except Refusal α
  | some value => .ok value
  | none => .error .usage

def sweepOptionsOf (found : Found) : Except Refusal SweepOptions := do
  return {
    inventory := ← required found.inventory
    accounts := found.accounts.getD [.main]
    targets := found.targets
    markdown := found.has .markdown }

def commandOf (name : String) (found : Found) : Except Refusal Command := do
  match name with
  | "plan" => return .plan (← sweepOptionsOf found)
  | "apply" => return .apply (← sweepOptionsOf found) (found.has .confirmed)
  | "policy" => return .policy found.targets
  | "completion" => return .completion (← required found.positional)
  | "config" => return .config (found.has .shown)
  | _ => throw .usage

/-- A request for help names no command, or one. -/
def helpFor (names : List String) : Refusal :=
  match names with
  | [] => .help
  | [name] => if Grammar.root.commands.contains name then .help else .usage
  | _ => .usage

def parse (arguments : List String) : Except Refusal CommandLine := do
  match ← scan .root false .start arguments with
  | (_, none) => throw .usage
  | (outer, some entered) =>
    if entered.name = Grammar.helpName then throw (helpFor entered.rest)
    let (inner, _) ← scan (.ofCommand entered.name) false .start entered.rest
    let inner ← inner.settle
    let command ← commandOf entered.name inner
    let outer ← outer.settle
    let has := fun flag => outer.has flag || inner.has flag
    return {
      json := has .json
      noColour := has .noColour
      verbose := has .verbose
      quiet := has .quiet
      configPath := inner.configPath.or outer.configPath
      command }

end CommandLine
end Retention
