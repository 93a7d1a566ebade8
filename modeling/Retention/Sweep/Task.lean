import Retention.Provider.Capture
import Retention.Resource.Snapshot
import Retention.Sweep.Execution

/-!
Work as a dialogue. A task asks the lister and the executor one question after the other and goes on
with each answer, so a task says nothing about who answers, when, or what happens in between.
-/
namespace Retention

inductive Call
  | list (account : Account) (region : String) (kind : Kind)
  | execute (operation : Operation) (snapshot : Snapshot)
  | wait (account : Account) (region : String) (instanceIds : List String)
deriving DecidableEq

namespace Call

@[reducible] def Answer : Call → Type
  | .list .. => Except ListingError (List Listed)
  | .execute .. => Except ExecutionError Outcome
  | .wait .. => Except ExecutionError Unit

end Call

/-- A call with the answer that was given to it. -/
structure Event where
  call : Call
  answer : call.Answer

inductive Task (α : Type)
  | done (value : α)
  /-- The work cannot go on. -/
  | abort
  | ask (call : Call) (next : call.Answer → Task α)

namespace Task

variable {α β : Type}

def bind : Task α → (α → Task β) → Task β
  | .done value, next => next value
  | .abort, _ => .abort
  | .ask call answered, next => .ask call fun answer => (answered answer).bind next

instance : Monad Task where
  pure := .done
  bind := .bind

def list (account : Account) (region : String) (kind : Kind) :
    Task (Except ListingError (List Listed)) := .ask (.list account region kind) .done

def execute (operation : Operation) (snapshot : Snapshot) :
    Task (Except ExecutionError Outcome) := .ask (.execute operation snapshot) .done

def wait (account : Account) (region : String) (instanceIds : List String) :
    Task (Except ExecutionError Unit) := .ask (.wait account region instanceIds) .done

/-- Runs a task with the answers that `answer` gives. -/
def run {m : Type → Type} [Monad m] (answer : (call : Call) → m call.Answer) : Task α → m (Option α)
  | .done value => pure (some value)
  | .abort => pure none
  | .ask call next => do (next (← answer call)).run answer

end Task
end Retention
