import Retention.Provider.Capture
import Retention.Settings.Policies

/-!
Failures that end a command. A failure is a cause in layers of context; a layer may fix the exit code.
-/
namespace Retention

inductive ExitCode
  | success
  | invalidArguments
  | runFailed
  | executionFailed
deriving DecidableEq

def ExitCode.number : ExitCode → Nat
  | .success => 0
  | .invalidArguments => 2
  | .runFailed => 10
  | .executionFailed => 20

inductive Failure
  | plain (message : String)
  | policy (cause : PolicyError)
  | listing (cause : ListingError)
  /-- Speaks with the message of what it wraps. -/
  | withCode (code : ExitCode) (inner : Failure)
  | context (message : String) (inner : Failure)
deriving DecidableEq

namespace Failure

/-- The message of the outermost layer. -/
def display : Failure → String
  | .plain message => message
  | .policy cause => cause.message
  | .listing cause => cause.message
  | .withCode _ inner => inner.display
  | .context message _ => message

/-- The messages of all layers, outermost first. A layer that fixes the exit code counts as one. -/
def chain : Failure → List String
  | .withCode _ inner => inner.display :: inner.chain
  | .context message inner => message :: inner.chain
  | cause => [cause.display]

/-- The outermost layer that fixes an exit code decides. Problems with the configured policies count
as invalid arguments without such a layer. -/
def exitCode : Failure → ExitCode
  | .withCode code _ => code
  | .context _ inner => inner.exitCode
  | .policy _ => .invalidArguments
  | _ => .runFailed

def invalidArguments (message : String) : Failure := .withCode .invalidArguments (.plain message)

def executionFailed (message : String) : Failure := .withCode .executionFailed (.plain message)

def advice : List String :=
  ["next:", "  - re-run with \x60--verbose\x60 for debug logs",
   "  - see \x60tagsweep --help\x60 for commands and options"]

def causes (failure : Failure) : List String :=
  match failure.chain.tail with
  | [] => []
  | causes => "caused by:" :: causes.map fun cause => "  - " ++ cause

/-- The block that is printed for a failure. -/
def text (failure : Failure) : String :=
  Text.unlines (["error:", "  " ++ failure.display] ++ failure.causes ++ advice)

end Failure

/-- What is wrong with a text that is no inventory is not told. -/
def CaptureError.failure (path : String) (error : CaptureError) : Failure :=
  match error with
  | .unreadable cause => .context (error.message path) (.plain cause.message)
  | .malformed => .plain (error.message path)

end Retention
