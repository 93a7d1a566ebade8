import Retention.Proofs.Sweep.Reached

/-!
What an executor is asked to do. Every execution of a run goes back to a listed resource of the unit and
to the operation that the rules give it, and none belongs to a dry run.
-/
namespace Retention
namespace WorkUnit

variable {unit : WorkUnit} {request : Request} {kind : Kind} {kinds : List Kind}
  {events : List Event} {event : Event} {operation : Operation} {snapshot : Snapshot}

/-- What has led to an execution in a dialogue. -/
inductive Caused (unit : WorkUnit) (request : Request) (kinds : List Kind) (events : List Event) :
    Operation → Snapshot → Prop
  | intro {kind : Kind} {policy : Policy} {listed : List Listed} {one : Listed}
      (wet : request.dryRun = false) (planned : kind ∈ kinds)
      (ruled : request.policies kind = some policy)
      (answered : unit.listing kind (.ok listed) ∈ events) (present : one ∈ listed)
      (mutating :
        (Rules.decide (unit.snapshotOf one) policy request.now).operation.isMutating = true) :
      Caused unit request kinds events
        (Rules.decide (unit.snapshotOf one) policy request.now).operation (unit.snapshotOf one)

theorem Caused.mono {others : List Kind} {more : List Event}
    (caused : Caused unit request kinds events operation snapshot) (wider : kinds ⊆ others)
    (longer : events ⊆ more) : Caused unit request others more operation snapshot := by
  obtain ⟨wet, planned, ruled, answered, present, mutating⟩ := caused
  exact .intro wet (wider planned) ruled (longer answered) present mutating

theorem CarriedOut.execution {records done : List Record} {issues : List Issue}
    (carried : CarriedOut unit kind records events done issues) (member : event ∈ events) :
    ∃ record ∈ records, record.verdict.operation.isMutating = true ∧
      ∃ answer, event = execution record answer := by
  induction carried with
  | nil => cases member
  | spared _ _ ih =>
    obtain ⟨record, inside, found⟩ := ih member
    exact ⟨record, List.mem_cons_of_mem _ inside, found⟩
  | @executed record _ _ _ _ mutating answer _ ih =>
    rcases List.mem_cons.mp member with rfl | later
    · exact ⟨record, List.mem_cons_self, mutating, answer, rfl⟩
    · obtain ⟨other, inside, found⟩ := ih later
      exact ⟨other, List.mem_cons_of_mem _ inside, found⟩

theorem Handled.execution {records : List Record} {result : UnitResult} {goesOn : Bool}
    (handled : Handled unit request kind records events result goesOn) (member : event ∈ events)
    (asked : event.call = .execute operation snapshot) :
    request.dryRun = false ∧ ∃ record ∈ records, record.verdict.operation.isMutating = true ∧
      operation = record.verdict.operation ∧ snapshot = record.snapshot := by
  have carriedOut {past : List Event} {done : List Record} {issues : List Issue}
      (carried : CarriedOut unit kind records past done issues) (inside : event ∈ past) :
      ∃ record ∈ records, record.verdict.operation.isMutating = true ∧
        operation = record.verdict.operation ∧ snapshot = record.snapshot := by
    obtain ⟨record, present, mutating, answer, rfl⟩ := carried.execution inside
    cases asked
    exact ⟨record, present, mutating, rfl, rfl⟩
  cases handled with
  | dry => cases member
  | applied wet _ carried | settled wet _ carried => exact ⟨wet, carriedOut carried member⟩
  | paused wet _ carried =>
    rcases List.mem_append.mp member with inside | last
    · exact ⟨wet, carriedOut carried inside⟩
    · rw [List.mem_singleton.mp last] at asked
      cases asked

theorem SweptKind.execution {outcome : Option (UnitResult × Bool)}
    (swept : SweptKind unit request kind events outcome) (member : event ∈ events)
    (asked : event.call = .execute operation snapshot) :
    Caused unit request [kind] events operation snapshot := by
  cases swept with
  | unruled => cases member
  | refused | undefined | vacant =>
    rw [List.mem_singleton.mp member] at asked
    cases asked
  | judged ruled _ _ handled =>
    rcases List.mem_cons.mp member with rfl | later
    · cases asked
    · obtain ⟨wet, record, inside, mutating, rfl, rfl⟩ := handled.execution later asked
      obtain ⟨one, present, rfl⟩ := List.mem_map.mp inside
      exact .intro wet List.mem_cons_self ruled List.mem_cons_self present mutating

theorem SweptKinds.execution {outcome : Option UnitResult}
    (swept : SweptKinds unit request kinds events outcome) (member : event ∈ events)
    (asked : event.call = .execute operation snapshot) :
    Caused unit request kinds events operation snapshot := by
  induction swept with
  | nil => cases member
  | broken head | stopped head => exact (head.execution member asked).mono (by simp) (by simp)
  | goesOn head _ ih =>
    rcases List.mem_append.mp member with first | later
    · exact (head.execution first asked).mono (by simp) (by simp)
    · exact (ih later).mono (by simp) (by simp)

end WorkUnit

namespace Pool

/-- An execution of a run is caused by an allowed dialogue of a planned unit. -/
theorem Reached.caused {behaviour : Behaviour} {request : Request} {pool : Pool}
    (reached : Reached behaviour request pool) (responds : behaviour.Responds) {unit : WorkUnit}
    {event : Event} (member : (unit, event) ∈ pool.events) {operation : Operation}
    {snapshot : Snapshot} (asked : event.call = .execute operation snapshot) :
    unit ∈ request.units ∧ ∃ dialogue, behaviour.Allows dialogue ∧
      WorkUnit.Caused unit request unit.kinds dialogue operation snapshot := by
  obtain ⟨planned, dialogue, outcome, inside, allowed, swept⟩ :=
    reached.asked_in_dialogue responds member
  exact ⟨planned, dialogue, allowed, swept.execution inside asked⟩

end Pool

def Provider.VmInstance.untagged : Provider.VmInstance :=
  ⟨"i-1", "t3.micro", none, "us-east-1a", "running", [], [], none⟩

/-- A capture with one region, which holds one instance and nothing else. -/
def Capture.ofMachine (machine : Provider.VmInstance) : Capture :=
  Capture.empty.set .main
    { regions := Dictionary.empty.insert "us-east-1" ⟨[⟨[machine]⟩], [], [], [], [], [], []⟩
      buckets := []
      resourceGroups := [] }

/-- Both accounts hold the same. -/
def Capture.ofBoth (content : AccountCapture) : Capture :=
  (Capture.empty.set .main content).set .second content

def Instant.noon : Instant :=
  .utc ⟨2024, 6, 15, by decide, by decide, by decide⟩
    ⟨12, 0, 0, 0, by decide, by decide, by decide, by decide⟩

def Instant.beforeNoon : Instant :=
  .utc ⟨2024, 6, 15, by decide, by decide, by decide⟩
    ⟨11, 59, 59, 0, by decide, by decide, by decide, by decide⟩

/-- A request to carry out what the tags of the instances of that region ask for. -/
def Request.forMachines : Request :=
  ⟨[.main], ["us-east-1"], [.vmInstance], fun _ => some .tagOnly, false, 1, .noon⟩

/-- What is answered where every execution ends alike and no wait fails. -/
def Lister.answering (lister : Lister) (outcome : Except ExecutionError Outcome) :
    (call : Call) → call.Answer
  | .list account region kind => lister account region kind
  | .execute .. => outcome
  | .wait .. => .ok ()

theorem Lister.answering_possible (lister : Lister) (outcome : Except ExecutionError Outcome)
    (call : Call) : Behaviour.listing lister call (lister.answering outcome call) := by
  cases call <;> first | rfl | trivial

/-- One worker takes the first unit and asks so many questions. -/
def Move.alone (answer : (call : Call) → call.Answer) (questions : Nat) : List Move :=
  .take 0 :: List.replicate questions (.ask 0 answer)

theorem Move.alone_fits {behaviour : Behaviour} {answer : (call : Call) → call.Answer}
    (possible : ∀ call, behaviour call (answer call)) (questions : Nat) :
    ∀ move ∈ alone answer questions, move.Fits behaviour := by
  intro move member
  rcases List.mem_cons.mp member with rfl | asking
  · trivial
  · rw [(List.mem_replicate.mp asking).2]
    exact possible

theorem Move.alone_fits_to_end {behaviour : Behaviour} {answer : (call : Call) → call.Answer}
    (possible : ∀ call, behaviour call (answer call)) (questions : Nat) :
    ∀ move ∈ alone answer questions ++ [.send 0, .receive], move.Fits behaviour :=
  List.forall_mem_append.mpr ⟨alone_fits possible questions, by simp [Fits]⟩

end Retention
