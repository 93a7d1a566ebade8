import Retention.Resource.Kind
import Retention.Time.Span

/-!
What carrying out an operation can come to.
-/
namespace Retention

/-- How often objects could not be removed while a bucket was emptied. -/
structure Outcome where
  failedCount : UInt64
deriving DecidableEq

inductive ExecutionError
  /-- The provider accepted a trial request; nothing was changed. -/
  | dryRunWouldSucceed
  | failed (operation : Operation) (resourceId message : String)
  | timeout (operation : Operation) (resourceId : String) (limit : Span)
  | waitTimeout (instanceIds : List String) (limit : Span)
deriving DecidableEq

namespace ExecutionError

def message : ExecutionError → String
  | .dryRunWouldSucceed => "dry run would have succeeded"
  | .failed operation resourceId message =>
    operation.name ++ " " ++ resourceId ++ " failed: " ++ message
  | .timeout operation resourceId limit =>
    operation.name ++ " " ++ resourceId ++ " timed out after " ++ limit.text
  | .waitTimeout instanceIds limit =>
    "instances still terminating after " ++ limit.text ++ ": " ++ ", ".intercalate instanceIds

/-- Counts as success without a change, other than of a wait. -/
def isBenign : ExecutionError → Bool
  | .dryRunWouldSucceed => true
  | _ => false

end ExecutionError
end Retention
