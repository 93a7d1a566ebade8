import Retention.Sweep.Task
import Retention.Text.Utf8

/-!
Operations carried out by an external program, the hook. For each operation and each wait the program
is invoked once with its configured words, the request, and an environment that names the account and
the region; the way the invocation ends settles the answer.
-/
namespace Retention

structure Hook where
  program : String
  baseArguments : List String
  limit : Span
  waitLimit : Span
  /-- The role handed over for resources of the second account. -/
  role : Option String
deriving DecidableEq

structure Invocation where
  program : String
  arguments : List String
  environment : List (String × String)
deriving DecidableEq

namespace Invocation

/-- No text that is handed to a program may hold a null character. -/
def hasNull (invocation : Invocation) : Bool :=
  let texts := invocation.program :: invocation.arguments ++ invocation.environment.map (·.2)
  texts.any fun text => text.toList.contains '\x00'

end Invocation

/-- How an invocation ended. A program that a signal ended has the exit code -1. -/
inductive Ending
  | notStarted (reason : String)
  | timedOut
  | exited (code : Int) (output errors : List UInt8)
deriving DecidableEq

namespace Hook

/-- What is said of a command without a word. -/
def emptyCommandMessage : String := "executor.command is empty"

/-- The first word of a command is the program. -/
def ofCommand? (command : String) (limit waitLimit : Span) (role : Option String) : Option Hook :=
  match Text.words command with
  | [] => none
  | program :: baseArguments => some { program, baseArguments, limit, waitLimit, role }

def variablesFor (hook : Hook) (account : Account) (region : String) : List (String × String) :=
  [("TAGSWEEP_ACCOUNT", account.name), ("TAGSWEEP_REGION", region)] ++
  match account, hook.role with
  | .second, some role => [("TAGSWEEP_ROLE_ARN", role)]
  | _, _ => []

def invocation (hook : Hook) (account : Account) (region : String) (request : List String) :
    Invocation :=
  ⟨hook.program, hook.baseArguments ++ request, hook.variablesFor account region⟩

def executeInvocation (hook : Hook) (operation : Operation) (snapshot : Snapshot) : Invocation :=
  hook.invocation snapshot.account snapshot.region
    ["execute", Text.lowerAscii operation.name, snapshot.kind.name, snapshot.id]

def waitInvocation (hook : Hook) (account : Account) (region : String) (instanceIds : List String) :
    Invocation :=
  hook.invocation account region ("wait-terminated" :: instanceIds)

def startFailure (hook : Hook) (reason : String) : String :=
  "failed to spawn process: " ++ hook.program ++ ": " ++ reason

/-- The trimmed error output, or the exit code where there is none. -/
def exitMessage (code : Int) (errors : String) : String :=
  let errors := Text.trim errors
  if errors.isEmpty then "hook exited with code " ++ toString code else errors

/-- What a program prints when a trial request would have been allowed. -/
def dryRunMarker : String := "DryRunOperation"

def failedCountMarker : List Char := "failed_count=".toList

/-- The count on a line that is the marker and a number, blanks aside. -/
def markedCount? (line : List Char) : Option UInt64 :=
  (failedCountMarker.isPrefixOf? (Text.trimmed line)).bind fun count =>
    Text.word64? (.ofList (Text.trimmed count))

/-- The last count in the output, or zero. -/
def failedCount (output : String) : UInt64 :=
  ((Text.lines output.toList).filterMap markedCount?).getLast?.getD 0

def executeAnswer (hook : Hook) (operation : Operation) (snapshot : Snapshot) :
    Ending → Except ExecutionError Outcome
  | .timedOut => .error (.timeout operation snapshot.id hook.limit)
  | .notStarted reason => .error (.failed operation snapshot.id (hook.startFailure reason))
  | .exited code output errors =>
    let output := Text.Utf8.decodeLenient output
    let errors := Text.Utf8.decodeLenient errors
    if code = 0 then .ok ⟨if snapshot.kind = .bucket then failedCount output else 0⟩
    else if Text.contains errors dryRunMarker || Text.contains output dryRunMarker then
      .error .dryRunWouldSucceed
    else .error (.failed operation snapshot.id (exitMessage code errors))

def waitAnswer (hook : Hook) (instanceIds : List String) : Ending → Except ExecutionError Unit
  | .timedOut => .error (.waitTimeout instanceIds hook.waitLimit)
  | .notStarted reason =>
    .error (.failed .terminate (",".intercalate instanceIds) (hook.startFailure reason))
  | .exited code _ errors =>
    if code = 0 then .ok ()
    else .error <| .failed .terminate (",".intercalate instanceIds) <|
      exitMessage code (Text.Utf8.decodeLenient errors)

variable {m : Type → Type} [Monad m]

def start (launch : Invocation → Span → m Ending) (invocation : Invocation) (limit : Span) :
    m Ending :=
  if invocation.hasNull then pure (.notStarted "nul byte found in provided data")
  else launch invocation limit

/-- Carries an operation out through `launch`, which starts a program and waits for its end. -/
def execute (hook : Hook) (launch : Invocation → Span → m Ending) (operation : Operation)
    (snapshot : Snapshot) : m (Except ExecutionError Outcome) := do
  let ending ← start launch (hook.executeInvocation operation snapshot) hook.limit
  return hook.executeAnswer operation snapshot ending

/-- Without an instance there is nothing to wait for, and nothing is started. -/
def wait (hook : Hook) (launch : Invocation → Span → m Ending) (account : Account)
    (region : String) (instanceIds : List String) : m (Except ExecutionError Unit) :=
  if instanceIds.isEmpty then pure (.ok ())
  else do
    let ending ← start launch (hook.waitInvocation account region instanceIds) hook.waitLimit
    return hook.waitAnswer instanceIds ending

/-- Answers the calls of a task from a lister and through the hook. -/
def answer (hook : Hook) (lister : Lister) (launch : Invocation → Span → m Ending) :
    (call : Call) → m call.Answer
  | .list account region kind => pure (lister account region kind)
  | .execute operation snapshot => hook.execute launch operation snapshot
  | .wait account region instanceIds => hook.wait launch account region instanceIds

end Hook
end Retention
