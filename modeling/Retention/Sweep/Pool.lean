import Retention.Sweep.Run

/-!
Units shared out among workers. A worker takes the next unit, asks the questions of its task one by one
and hands the result over; results are received in the order in which they were handed over. Any order
of such moves is a run. Every question is answered anew, so that an executor may remember what it did.
-/
namespace Retention

/-- The answers that may be given to a call. -/
abbrev Behaviour := (call : Call) → call.Answer → Prop

namespace Behaviour

/-- Any answer may be given. -/
def any : Behaviour := fun _ _ => True

/-- Listings are those of the lister; an executor may answer anything. -/
def listing (lister : Lister) : Behaviour
  | .list account region kind => fun answer => answer = lister account region kind
  | .execute .. => fun _ => True
  | .wait .. => fun _ => True

/-- Each call has one answer, whenever it is made. -/
def fixed (answer : (call : Call) → call.Answer) : Behaviour := fun call given => given = answer call

end Behaviour

/-- A worker with a unit: what has been asked for it, and what is left to do. -/
structure Worker where
  unit : WorkUnit
  events : List Event
  task : Task UnitResult

/-- A unit that is done. -/
structure Delivery where
  unit : WorkUnit
  events : List Event
  result : UnitResult

structure Pool where
  waiting : List WorkUnit
  /-- An idle worker has no unit. -/
  workers : List (Option Worker)
  sent : List Delivery
  received : List Delivery
  /-- All that has been asked so far, each question with the unit that it was asked for. -/
  events : List (WorkUnit × Event)

/-- What may happen next. A worker is meant by its place among the workers; it asks while `answer`
describes what would be answered. -/
inductive Move
  | take (worker : Nat)
  | ask (worker : Nat) (answer : (call : Call) → call.Answer)
  | send (worker : Nat)
  | receive

/-- Whatever is asked in the move gets an answer of the behaviour. -/
def Move.Fits (behaviour : Behaviour) : Move → Prop
  | .ask _ answer => ∀ call, behaviour call (answer call)
  | .take _ | .send _ | .receive => True

/-- At least one worker, and no more of them than units. -/
def Request.workerCount (request : Request) : Nat :=
  min (max request.workers 1) (max request.units.length 1)

namespace Pool

def start (request : Request) : Pool :=
  ⟨request.units, List.replicate request.workerCount none, [], [], []⟩

def take (request : Request) (pool : Pool) (worker : Nat) : Option Pool :=
  match pool.workers[worker]?, pool.waiting with
  | some none, unit :: waiting =>
    some { pool with
      waiting
      workers := pool.workers.set worker (some ⟨unit, [], unit.sweep request⟩) }
  | _, _ => none

def ask (answer : (call : Call) → call.Answer) (pool : Pool) (worker : Nat) : Option Pool :=
  match pool.workers[worker]? with
  | some (some ⟨unit, events, .ask call next⟩) =>
    let event : Event := ⟨call, answer call⟩
    some { pool with
      workers := pool.workers.set worker (some ⟨unit, events ++ [event], next event.answer⟩)
      events := pool.events ++ [(unit, event)] }
  | _ => none

def send (pool : Pool) (worker : Nat) : Option Pool :=
  match pool.workers[worker]? with
  | some (some ⟨unit, events, .done result⟩) =>
    some { pool with
      workers := pool.workers.set worker none
      sent := pool.sent ++ [⟨unit, events, result⟩] }
  | _ => none

def receive (pool : Pool) : Option Pool :=
  match pool.sent with
  | delivery :: sent => some { pool with sent, received := pool.received ++ [delivery] }
  | [] => none

/-- The pool after a move, if the move is possible. -/
def move (request : Request) (pool : Pool) : Move → Option Pool
  | .take worker => pool.take request worker
  | .ask worker answer => pool.ask answer worker
  | .send worker => pool.send worker
  | .receive => pool.receive

def play (request : Request) (pool : Pool) (moves : List Move) : Option Pool :=
  moves.foldlM (move request) pool

/-- The pools of all runs of a request, finished or not. -/
inductive Reached (behaviour : Behaviour) (request : Request) : Pool → Prop
  | start : Reached behaviour request (start request)
  | move {pool next : Pool} {move : Move} (before : Reached behaviour request pool)
      (fits : move.Fits behaviour) (moved : pool.move request move = some next) :
      Reached behaviour request next

/-- Nothing is left to do. -/
def isFinished (pool : Pool) : Bool :=
  pool.waiting.isEmpty && pool.workers.all (·.isNone) && pool.sent.isEmpty

/-- Nothing can happen any more. -/
def IsStuck (request : Request) (pool : Pool) : Prop :=
  ∀ move, pool.move request move = none

/-- The units that have been taken, each with what was asked for it. -/
def dialogues (pool : Pool) : List (WorkUnit × List Event) :=
  pool.workers.reduceOption.map (fun worker => (worker.unit, worker.events)) ++
    (pool.sent ++ pool.received).map fun delivery => (delivery.unit, delivery.events)

/-- The report on what has been received. -/
def report (pool : Pool) (request : Request) : Report :=
  .assemble request (pool.received.map (·.result))

/-- What a run that can go no further comes to. -/
def outcome (pool : Pool) (request : Request) : Except SweepError Report :=
  if pool.isFinished then .ok (pool.report request) else .error .undefinedAge

/-- What the observer of a sweep has been told. -/
def notices (pool : Pool) : List Notice :=
  pool.received.flatMap fun delivery => Notice.ofResult delivery.unit delivery.result

end Pool
end Retention
