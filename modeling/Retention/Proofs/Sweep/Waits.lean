import Retention.Proofs.Sweep.Plan
import Retention.Proofs.Sweep.Results
import Retention.Proofs.Verdict

/-!
Waiting for terminated instances. The instances of a unit are listed first, then carried out in the order
of the listing, and one wait follows for those whose termination was accepted. A trial counts as accepted
although nothing was changed, so the wait covers the terminated instances alone exactly where no
termination was a trial.
-/
namespace Retention

/-- The executor did what it was asked for, or a trial of it. -/
def Outcome.accepts : Except ExecutionError Outcome → Bool
  | .ok _ => true
  | .error failure => failure.isBenign

/-- The executor made a trial and changed nothing. -/
def Outcome.isTrial : Except ExecutionError Outcome → Bool
  | .ok _ => false
  | .error failure => failure.isBenign

namespace Event

def isWait : Event → Bool
  | ⟨.wait .., _⟩ => true
  | ⟨.list .., _⟩ | ⟨.execute .., _⟩ => false

/-- The resource of a termination whose answer counts. -/
def termination? (counts : Except ExecutionError Outcome → Bool) : Event → Option String
  | ⟨.execute .terminate snapshot, answer⟩ => if counts answer then some snapshot.id else none
  | _ => none

end Event

/-- The ids of the resources whose termination got an answer that counts, in the order of the events. -/
def terminations (counts : Except ExecutionError Outcome → Bool) (events : List Event) : List String :=
  events.filterMap (·.termination? counts)

theorem terminations_cons (counts : Except ExecutionError Outcome → Bool) (event : Event)
    (events : List Event) : terminations counts (event :: events) =
      (event.termination? counts).toList ++ terminations counts events := by
  unfold terminations
  cases found : event.termination? counts <;> simp [found]

theorem Event.termination?_accepts (event : Event) :
    (event.termination? Outcome.isTrial = none ∧
        event.termination? Outcome.accepts = event.termination? (·.isOk)) ∨
      ∃ id, event.termination? Outcome.isTrial = some id ∧
        event.termination? Outcome.accepts = some id ∧ event.termination? (·.isOk) = none := by
  obtain ⟨call, answer⟩ := event
  unfold termination?
  split
  · rename_i snapshot given same
    cases given with
    | ok outcome => exact .inl ⟨rfl, rfl⟩
    | error failure =>
      cases benign : failure.isBenign with
      | false =>
        left
        simp [Outcome.isTrial, Outcome.accepts, benign, Except.isOk, Except.toBool]
      | true =>
        right
        refine ⟨snapshot.id, ?_⟩
        simp [Outcome.isTrial, Outcome.accepts, benign, Except.isOk, Except.toBool]
  · exact .inl ⟨rfl, rfl⟩

theorem terminations_isOk_length_le (events : List Event) :
    (terminations (·.isOk) events).length ≤ (terminations Outcome.accepts events).length := by
  induction events with
  | nil => exact Nat.le_refl _
  | cons event events ih =>
    rw [terminations_cons, terminations_cons, List.length_append, List.length_append]
    rcases event.termination?_accepts with ⟨-, same⟩ | ⟨id, -, accepted, undone⟩
    · rw [same]
      omega
    · rw [accepted, undone]
      simp
      omega

/-- What is accepted is what was done, as long as nothing was a trial. -/
theorem terminations_accepts_eq_iff (events : List Event) :
    terminations Outcome.accepts events = terminations (·.isOk) events ↔
      terminations Outcome.isTrial events = [] := by
  induction events with
  | nil => simp [terminations]
  | cons event events ih =>
    rw [terminations_cons, terminations_cons, terminations_cons]
    rcases event.termination?_accepts with ⟨real, same⟩ | ⟨id, trial, accepted, undone⟩
    · rw [real, same, List.append_cancel_left_eq, ih]
      simp
    · rw [trial, accepted, undone]
      have shorter := terminations_isOk_length_le events
      constructor
      · intro equal
        have lengths := congrArg List.length equal
        simp at lengths
        omega
      · intro none
        simp at none

namespace WorkUnit

variable {unit : WorkUnit} {request : Request} {kind : Kind} {kinds : List Kind}
  {events : List Event}

/-- What the rules ask to be carried out of a listing, in its order. -/
def orders (unit : WorkUnit) (policy : Policy) (now : Instant) (listed : List Listed) : List Call :=
  ((listed.map (unit.recordOf policy now)).filter (·.verdict.operation.isMutating)).map
    fun record => .execute record.verdict.operation record.snapshot

theorem termination?_execution (counts : Except ExecutionError Outcome → Bool) (record : Record)
    (answer : Except ExecutionError Outcome) :
    (execution record answer).termination? counts =
      if record.verdict.operation = .terminate ∧ counts answer = true then some record.snapshot.id
      else none := by
  unfold execution
  cases record.verdict.operation <;> simp [Event.termination?]

theorem CarriedOut.calls {records done : List Record} {issues : List Issue}
    (carried : CarriedOut unit kind records events done issues) :
    events.map (·.call) = (records.filter (·.verdict.operation.isMutating)).map
      fun record => .execute record.verdict.operation record.snapshot := by
  induction carried with
  | nil => rfl
  | spared idle _ ih => simpa [idle] using ih
  | executed mutating answer _ ih =>
    simp only [List.map_cons, List.filter_cons, mutating, if_true, ih]
    rfl

/-- After the executions the awaited instances are those whose termination was accepted. -/
theorem CarriedOut.awaited_eq {records done : List Record} {issues : List Issue}
    (carried : CarriedOut unit kind records events done issues)
    (clean : ∀ record ∈ records, record.verdict.operation.isMutating = true →
      record.verdict.error = none) :
    awaited done = terminations Outcome.accepts events := by
  induction carried with
  | nil => rfl
  | @spared record _ _ _ _ idle _ ih =>
    have other : record.verdict.operation ≠ .terminate := by
      intro same
      simp [same, Operation.isMutating] at idle
    rw [← ih fun later member => clean later (List.mem_cons_of_mem _ member)]
    simp [awaited, other]
  | @executed record _ _ _ _ mutating answer _ ih =>
    have first := clean record List.mem_cons_self mutating
    have rest := ih fun later member => clean later (List.mem_cons_of_mem _ member)
    rw [terminations_cons, termination?_execution, ← rest]
    by_cases terminate : record.verdict.operation = .terminate
    · cases answer with
      | ok outcome => simp [awaited, afterExecution, terminate, first, Outcome.accepts]
      | error failure =>
        cases benign : failure.isBenign <;>
          simp [awaited, afterExecution, terminate, first, Outcome.accepts, benign]
    · cases answer with
      | ok outcome => simp [awaited, afterExecution, terminate]
      | error failure =>
        cases benign : failure.isBenign <;> simp [awaited, afterExecution, terminate, benign]

/-- The dialogue about the instances of a unit, up to the wait that covers them. -/
structure Waited (unit : WorkUnit) (request : Request) (policy : Policy) (listed : List Listed)
    (executions : List Event) : Prop where
  ruled : request.policies .vmInstance = some policy
  calls : executions.map (·.call) = unit.orders policy request.now listed
  somebody : terminations Outcome.accepts executions ≠ []

theorem isWait_execution (record : Record) (answer : Except ExecutionError Outcome) :
    (execution record answer).isWait = false := rfl

theorem CarriedOut.isWait {records done : List Record} {issues : List Issue}
    (carried : CarriedOut unit kind records events done issues) :
    ∀ event ∈ events, event.isWait = false := by
  intro event member
  obtain ⟨record, -, -, answer, rfl⟩ := carried.execution member
  exact isWait_execution record answer

theorem error_recordOf {policy : Policy} {now : Instant} {listed : List Listed} :
    ∀ record ∈ listed.map (unit.recordOf policy now),
      record.verdict.operation.isMutating = true → record.verdict.error = none := by
  intro record member mutating
  obtain ⟨one, -, rfl⟩ := List.mem_map.mp member
  exact Rules.decide_error_of_isMutating mutating

/-- Instances are waited for once they have been carried out, unless no termination was accepted. -/
theorem SweptKind.waited {outcome : Option (UnitResult × Bool)}
    (swept : SweptKind unit request .vmInstance events outcome) :
    (∃ policy listed executions answer, Waited unit request policy listed executions ∧
      (∀ event ∈ executions, event.isWait = false) ∧
      events = unit.listing .vmInstance (.ok listed) :: executions ++
        [unit.pause (terminations Outcome.accepts executions) answer]) ∨
    ∀ event ∈ events, event.isWait = false ∧ event.termination? Outcome.accepts = none := by
  cases swept with
  | unruled => simp
  | refused | undefined | vacant => simp [listing, Event.isWait, Event.termination?]
  | @judged policy listed events result goesOn ruled _ _ handled =>
    cases handled with
    | dry => simp [listing, Event.isWait, Event.termination?]
    | applied _ other => exact absurd rfl other
    | settled _ _ carried nobody =>
      have none : terminations Outcome.accepts events = [] :=
        (carried.awaited_eq error_recordOf).symm.trans nobody
      right
      intro event member
      rcases List.mem_cons.mp member with rfl | later
      · simp [listing, Event.isWait, Event.termination?]
      · exact ⟨carried.isWait event later, List.filterMap_eq_nil_iff.mp none event later⟩
    | @paused done executions issues _ _ carried somebody answer =>
      have covered := carried.awaited_eq error_recordOf
      rw [covered] at somebody ⊢
      exact .inl ⟨policy, listed, executions, answer, ⟨ruled, carried.calls, somebody⟩,
        carried.isWait, rfl⟩

theorem SweptKind.isWait {outcome : Option (UnitResult × Bool)}
    (swept : SweptKind unit request kind events outcome) (other : kind ≠ .vmInstance) :
    ∀ event ∈ events, event.isWait = false := by
  cases swept with
  | unruled => simp
  | refused | undefined | vacant => simp [listing, Event.isWait]
  | judged _ _ _ handled =>
    intro event member
    rcases List.mem_cons.mp member with rfl | later
    · rfl
    · cases handled with
      | dry => cases later
      | applied _ _ carried => exact carried.isWait event later
      | settled _ machines | paused _ machines => exact absurd machines other

theorem SweptKinds.isWait {outcome : Option UnitResult}
    (swept : SweptKinds unit request kinds events outcome) (others : Kind.vmInstance ∉ kinds) :
    ∀ event ∈ events, event.isWait = false := by
  induction swept with
  | nil => simp
  | broken head | stopped head =>
    exact head.isWait fun same => others (same ▸ List.mem_cons_self)
  | goesOn head _ ih =>
    intro event member
    rcases List.mem_append.mp member with first | later
    · exact head.isWait (fun same => others (same ▸ List.mem_cons_self)) event first
    · exact ih (fun inside => others (List.mem_cons_of_mem _ inside)) event later

/-- Where instances come first, a dialogue is one about them and then one about other kinds. -/
theorem SweptKinds.machines_first {outcome : Option UnitResult}
    (swept : SweptKinds unit request kinds events outcome)
    (first : Kind.vmInstance ∉ kinds.tail) :
    ∃ start later others outcome', events = start ++ later ∧
      (start = [] ∨ ∃ result, SweptKind unit request .vmInstance start result) ∧
      Kind.vmInstance ∉ others ∧ SweptKinds unit request others later outcome' := by
  by_cases inside : Kind.vmInstance ∈ kinds
  · cases swept with
    | nil => cases inside
    | @broken kind _ _ head | @stopped kind _ _ _ head =>
      have same : kind = .vmInstance := ((List.mem_cons.mp inside).resolve_right first).symm
      subst same
      exact ⟨events, [], [], _, by simp, .inr ⟨_, head⟩, by simp, .nil⟩
    | @goesOn kind _ _ _ _ _ head tail =>
      have same : kind = .vmInstance := ((List.mem_cons.mp inside).resolve_right first).symm
      subst same
      exact ⟨_, _, _, _, rfl, .inr ⟨_, head⟩, first, tail⟩
  · exact ⟨[], events, kinds, outcome, rfl, .inl rfl, inside, swept⟩

/-- In a unit whose instances come first, a wait comes after their executions, and there is no other. -/
theorem SweptKinds.waited {outcome : Option UnitResult}
    (swept : SweptKinds unit request kinds events outcome)
    (first : Kind.vmInstance ∉ kinds.tail) :
    (∃ policy listed executions answer later, Waited unit request policy listed executions ∧
      (∀ event ∈ unit.listing .vmInstance (.ok listed) :: executions ++ later,
        event.isWait = false) ∧
      events = unit.listing .vmInstance (.ok listed) :: executions ++
        unit.pause (terminations Outcome.accepts executions) answer :: later) ∨
    ∀ event ∈ events, event.isWait = false := by
  obtain ⟨start, later, others, _, rfl, machines, absent, tail⟩ := swept.machines_first first
  have quiet := tail.isWait absent
  rcases machines with rfl | ⟨result, head⟩
  · exact .inr quiet
  · rcases head.waited with ⟨policy, listed, executions, answer, waited, silent, rfl⟩ | none
    · refine .inl ⟨policy, listed, executions, answer, later, waited, ?_, by simp⟩
      intro event member
      rcases List.mem_append.mp member with old | new
      · rcases List.mem_cons.mp old with rfl | inside
        · rfl
        · exact silent event inside
      · exact quiet event new
    · right
      intro event member
      rcases List.mem_append.mp member with old | new
      · exact (none event old).1
      · exact quiet event new

theorem Caused.mem_kinds {operation : Operation} {snapshot : Snapshot}
    (caused : Caused unit request kinds events operation snapshot)
    (asked : unit.ListsAskedKinds events) : snapshot.kind ∈ kinds := by
  obtain ⟨-, planned, -, answered, present, -⟩ := caused
  rw [kind_snapshotOf, asked _ _ answered _ present]
  exact planned

theorem SweptKinds.covered {outcome : Option UnitResult}
    (swept : SweptKinds unit request kinds events outcome)
    (first : Kind.vmInstance ∉ kinds.tail) (asked : unit.ListsAskedKinds events) {event : Event}
    (member : event ∈ events) {snapshot : Snapshot}
    (called : event.call = .execute .terminate snapshot) (machine : snapshot.kind = .vmInstance)
    (accepted : event.termination? Outcome.accepts = some snapshot.id) :
    ∃ ids answer, unit.pause ids answer ∈ events ∧ snapshot.id ∈ ids := by
  obtain ⟨start, later, others, _, rfl, machines, absent, tail⟩ := swept.machines_first first
  rcases List.mem_append.mp member with old | new
  · obtain ⟨result, head⟩ := machines.resolve_left (List.ne_nil_of_mem old)
    rcases head.waited with ⟨policy, listed, executions, answer, waited, silent, rfl⟩ | none
    · have inside : event ∈ executions := by
        rcases List.mem_append.mp old with front | last
        · rcases List.mem_cons.mp front with rfl | inside
          · cases called
          · exact inside
        · rw [List.mem_singleton.mp last] at called
          cases called
      refine ⟨terminations Outcome.accepts executions, answer, by simp, ?_⟩
      exact List.mem_filterMap.mpr ⟨event, inside, accepted⟩
    · rw [(none event old).2] at accepted
      cases accepted
  · have caused := tail.execution new called
    have turn := caused.mem_kinds fun kind listed answered =>
      asked kind listed (List.mem_append_right _ answered)
    rw [machine] at turn
    exact absurd turn absent

end WorkUnit

private theorem split_at_only {front back before after : List Event} {only event : Event}
    (quiet : ∀ other ∈ front ++ back, other.isWait = false) (waits : event.isWait = true)
    (split : front ++ only :: back = before ++ event :: after) :
    before = front ∧ event = only := by
  rcases List.append_eq_append_iff.mp split with ⟨more, rfl, rest⟩ | ⟨more, rfl, rest⟩
  · cases more with
    | nil => exact ⟨by simp, (List.cons.inj rest).1.symm⟩
    | cons head more =>
      have inside : event ∈ back := by
        rw [(List.cons.inj rest).2]
        simp
      rw [quiet event (List.mem_append_right _ inside)] at waits
      cases waits
  · cases more with
    | nil => exact ⟨by simp, (List.cons.inj rest).1⟩
    | cons head more =>
      have same := (List.cons.inj rest).1
      rw [quiet event (by simp [same])] at waits
      cases waits

private theorem waits_le_one {front back : List Event} {only : Event}
    (quiet : ∀ other ∈ front ++ back, other.isWait = false) :
    ((front ++ only :: back).filter (·.isWait)).length ≤ 1 := by
  have none : (front ++ back).filter (·.isWait) = [] :=
    List.filter_eq_nil_iff.mpr (by simpa using quiet)
  rw [List.filter_append] at none ⊢
  obtain ⟨before, after⟩ := List.append_eq_nil_iff.mp none
  rw [before, List.filter_cons, after]
  split <;> simp

namespace Pool

/-- A unit waits at most once, and never for nobody. The wait comes after all that the rules ask to be
carried out of the instances, and covers those whose termination was accepted, in the order of the
listing; these are the terminated ones exactly where no termination was a trial. No accepted termination
of an instance is left out of a unit that is done. -/
theorem Reached.waits_for_accepted {request : Request} {pool : Pool}
    (reached : Reached .any request pool) :
    (∀ unit events, (unit, events) ∈ pool.dialogues →
      (events.filter (·.isWait)).length ≤ 1 ∧
      ∀ before wait after, events = before ++ wait :: after → wait.isWait = true →
        ∃ policy listed executions answer,
          WorkUnit.Waited unit request policy listed executions ∧
          before = unit.listing .vmInstance (.ok listed) :: executions ∧
          wait = unit.pause (terminations Outcome.accepts executions) answer ∧
          (terminations Outcome.accepts executions = terminations (·.isOk) executions ↔
            terminations Outcome.isTrial executions = [])) ∧
    ∀ delivery ∈ pool.sent ++ pool.received, delivery.unit.ListsAskedKinds delivery.events →
      ∀ event ∈ delivery.events, ∀ snapshot, event.call = .execute .terminate snapshot →
        snapshot.kind = .vmInstance →
        event.termination? Outcome.accepts = some snapshot.id →
        ∃ ids answer, delivery.unit.pause ids answer ∈ delivery.events ∧ snapshot.id ∈ ids := by
  constructor
  · intro unit events own
    obtain ⟨planned, dialogue, outcome, start, -, swept⟩ :=
      reached.dialogue Behaviour.any_responds own
    have decomposed := swept.waited (WorkUnit.vmInstance_notMem_tail planned)
    obtain ⟨rest, rfl⟩ := start
    constructor
    · have fewer : (events.filter (·.isWait)).length ≤
          ((events ++ rest).filter (·.isWait)).length := by
        rw [List.filter_append, List.length_append]
        omega
      refine fewer.trans ?_
      rcases decomposed with ⟨policy, listed, executions, answer, later, -, quiet, split⟩ | none
      · rw [split]
        exact waits_le_one quiet
      · rw [List.filter_eq_nil_iff.mpr (by simpa using none)]
        simp
    · intro before wait after split waits
      subst split
      rcases decomposed with
        ⟨policy, listed, executions, answer, later, waited, quiet, whole⟩ | none
      · rw [List.append_assoc, List.cons_append] at whole
        obtain ⟨rfl, rfl⟩ := split_at_only quiet waits whole.symm
        exact ⟨policy, listed, executions, answer, waited, rfl, rfl,
          terminations_accepts_eq_iff executions⟩
      · rw [none wait (by simp)] at waits
        cases waits
  · intro delivery member asked event inside snapshot called machine accepted
    obtain ⟨planned, -, swept⟩ := reached.delivered member
    exact swept.covered (WorkUnit.vmInstance_notMem_tail planned) asked inside called machine
      accepted

/-- A run that terminates an instance, waits for it and is done. -/
theorem waits_for_accepted_machine :
    ∃ pool, Reached .any .forMachines pool ∧ ∃ delivery ∈ pool.received,
      (delivery.events.filter (·.isWait)).length ≤ 1 ∧
      ∃ ids answer, delivery.unit.pause ids answer ∈ delivery.events ∧ "i-1" ∈ ids := by
  let answer := (Capture.ofMachine .untagged).lister.answering (.ok ⟨0⟩)
  let unit : WorkUnit := ⟨.main, "us-east-1", [.vmInstance]⟩
  let snapshot := unit.snapshotOf (.vmInstance .untagged)
  let termination : Event := ⟨.execute .terminate snapshot, .ok ⟨0⟩⟩
  let events : List Event :=
    [unit.listing .vmInstance (.ok [.vmInstance .untagged]), termination,
      unit.pause ["i-1"] (.ok ())]
  obtain ⟨pool, played, result, received⟩ : ∃ pool,
      (start .forMachines).play .forMachines
        (Move.alone answer 3 ++ [.send 0, .receive]) = some pool ∧
      ∃ result, pool.received = [⟨unit, events, result⟩] := ⟨_, rfl, _, rfl⟩
  have reached : Reached .any .forMachines pool :=
    reached_of_play .start (fun move _ => move.fits_any) played
  have done : (⟨unit, events, result⟩ : Delivery) ∈ pool.received := by simp [received]
  have own : (unit, events) ∈ pool.dialogues := by simp [dialogues, received]
  have asked : unit.ListsAskedKinds events := by
    intro kind listed answered one present
    simp only [events, List.mem_cons, List.not_mem_nil, or_false] at answered
    rcases answered with same | same | same
    · cases same
      rw [List.mem_singleton.mp present]
      rfl
    · simp [termination, WorkUnit.listing] at same
    · simp [WorkUnit.pause, WorkUnit.listing] at same
  obtain ⟨bounded, covered⟩ := reached.waits_for_accepted
  refine ⟨pool, reached, _, done, (bounded unit events own).1, ?_⟩
  exact covered _ (List.mem_append_right _ done) asked termination (by simp [events]) snapshot
    rfl rfl rfl

/-- A trial is waited for as well, although the instance has not been terminated. -/
theorem waits_for_trial :
    ∃ pool, Reached .any .forMachines pool ∧ ∃ unit before answer,
      (unit, before ++ [WorkUnit.pause unit ["i-1"] answer]) ∈ pool.dialogues ∧
      terminations (·.isOk) before = [] := by
  let answer := (Capture.ofMachine .untagged).lister.answering (.error .dryRunWouldSucceed)
  let unit : WorkUnit := ⟨.main, "us-east-1", [.vmInstance]⟩
  let snapshot := unit.snapshotOf (.vmInstance .untagged)
  let before : List Event :=
    [unit.listing .vmInstance (.ok [.vmInstance .untagged]),
      ⟨.execute .terminate snapshot, .error .dryRunWouldSucceed⟩]
  obtain ⟨pool, played, task, working⟩ : ∃ pool,
      (start .forMachines).play .forMachines (Move.alone answer 3) = some pool ∧
      ∃ task, pool.workers = [some ⟨unit, before ++ [unit.pause ["i-1"] (.ok ())], task⟩] :=
    ⟨_, rfl, _, rfl⟩
  have reached := reached_of_play .start (fun move _ => move.fits_any) played
  exact ⟨pool, reached, unit, before, .ok (), by simp [dialogues, working], rfl⟩

end Pool
end Retention
