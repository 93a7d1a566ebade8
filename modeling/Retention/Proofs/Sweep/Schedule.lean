import Retention.Proofs.Capture
import Retention.Proofs.Sweep.Assembly
import Retention.Proofs.Sweep.Plan
import Retention.Proofs.Sweep.Progress
import Retention.Proofs.Sweep.Results

/-!
The schedule does not matter. Where each call has one answer, every planned unit comes to one result,
whoever works on it and whenever it is received. Entries of a report that share a key come from the same
unit, so the report is the same for every number of workers and every order of their moves.
-/
namespace Retention

/-- Requests that judge alike; they may differ in what is swept, and by how many workers. -/
structure Request.Agrees (request other : Request) : Prop where
  policies : other.policies = request.policies
  dryRun : other.dryRun = request.dryRun
  now : other.now = request.now

namespace WorkUnit

variable {answer : (call : Call) → call.Answer} {request other : Request} {unit : WorkUnit}

theorem sweepKind_congr (agrees : request.Agrees other) (kind : Kind) :
    unit.sweepKind other kind = unit.sweepKind request kind := by
  simp only [sweepKind, handle, agrees.policies, agrees.dryRun, agrees.now]

theorem sweep_congr (agrees : request.Agrees other) : unit.sweep other = unit.sweep request := by
  have all (kinds : List Kind) : unit.sweepKinds other kinds = unit.sweepKinds request kinds := by
    induction kinds with
    | nil => rfl
    | cons kind kinds ih => simp only [sweepKinds, sweepKind_congr agrees, ih]
  exact all unit.kinds

/-- What a unit comes to where each call has one answer. -/
def resultOf (answer : (call : Call) → call.Answer) (request : Request) (unit : WorkUnit) :
    Option UnitResult :=
  Id.run ((unit.sweep request).run (m := Id) answer)

theorem resultOf_eq_iff {outcome : Option UnitResult} :
    unit.resultOf answer request = outcome ↔ ∃ events, (Behaviour.fixed answer).Allows events ∧
      SweptKinds unit request unit.kinds events outcome := by
  simp only [resultOf, Task.run_eq_iff_ends, ends_sweep_iff]

theorem resultOf_congr (agrees : request.Agrees other) :
    unit.resultOf answer other = unit.resultOf answer request := by
  rw [resultOf, sweep_congr agrees, resultOf]

/-- The result of a unit, or none of it where the unit cannot be done. -/
def worth (answer : (call : Call) → call.Answer) (request : Request) (unit : WorkUnit) :
    UnitResult :=
  (unit.resultOf answer request).getD .empty

theorem worth_of_resultOf {result : UnitResult}
    (found : unit.resultOf answer request = some result) : unit.worth answer request = result := by
  rw [worth, found, Option.getD_some]

end WorkUnit

/-- Listings hold resources of the kinds that are asked for. -/
def ListsKinds (answer : (call : Call) → call.Answer) : Prop :=
  ∀ account region kind listed, answer (.list account region kind) = .ok listed →
    ∀ one ∈ listed, one.kind = kind

namespace WorkUnit

variable {answer : (call : Call) → call.Answer} {request : Request} {unit other : WorkUnit}

theorem listsAskedKinds {events : List Event} (lists : ListsKinds answer)
    (allowed : (Behaviour.fixed answer).Allows events) : unit.ListsAskedKinds events := by
  intro kind listed asked
  have same : .ok listed = answer (.list unit.account unit.region kind) := allowed _ asked
  exact lists _ _ _ _ same.symm

theorem record_place (lists : ListsKinds answer) {record : Record}
    (member : record ∈ (unit.worth answer request).records) :
    record.snapshot.account = unit.account ∧ record.snapshot.region = unit.region ∧
      record.kind ∈ unit.kinds := by
  cases found : unit.resultOf answer request with
  | none =>
    rw [worth, found] at member
    cases member
  | some result =>
    rw [worth_of_resultOf found] at member
    obtain ⟨events, allowed, swept⟩ := resultOf_eq_iff.mp found
    have recorded := swept.recorded rfl member
    exact ⟨recorded.account, recorded.region, recorded.kind_mem (listsAskedKinds lists allowed)⟩

theorem issue_place {issue : Issue} (member : issue ∈ (unit.worth answer request).issues) :
    issue.account = unit.account ∧ issue.region = unit.region ∧ issue.resourceKind ∈ unit.kinds := by
  cases found : unit.resultOf answer request with
  | none =>
    rw [worth, found] at member
    cases member
  | some result =>
    rw [worth_of_resultOf found] at member
    obtain ⟨events, -, swept⟩ := resultOf_eq_iff.mp found
    exact swept.issues_concern rfl issue member

/-- Records under one key come from one unit. -/
theorem eq_of_record_key (lists : ListsKinds answer) (planned : unit ∈ request.units)
    (planned' : other ∈ request.units) {record record' : Record}
    (member : record ∈ (unit.worth answer request).records)
    (member' : record' ∈ (other.worth answer request).records) (same : record.key = record'.key) :
    unit = other := by
  obtain ⟨account, region, turn⟩ := record_place lists member
  obtain ⟨account', region', turn'⟩ := record_place lists member'
  obtain ⟨accounts, regions, kinds, -⟩ := Record.key_inj.mp same
  rw [← kinds] at turn'
  exact eq_of_mem_plan planned planned' (account.symm.trans (accounts.trans account'))
    (region.symm.trans (regions.trans region')) turn turn'

theorem eq_of_issue_key (planned : unit ∈ request.units) (planned' : other ∈ request.units)
    {issue issue' : Issue} (member : issue ∈ (unit.worth answer request).issues)
    (member' : issue' ∈ (other.worth answer request).issues) (same : issue.key = issue'.key) :
    unit = other := by
  obtain ⟨account, region, turn⟩ := issue_place member
  obtain ⟨account', region', turn'⟩ := issue_place member'
  obtain ⟨accounts, regions, kinds⟩ := Issue.key_inj.mp same
  rw [← kinds] at turn'
  exact eq_of_mem_plan planned planned' (account.symm.trans (accounts.trans account'))
    (region.symm.trans (regions.trans region')) turn turn'

end WorkUnit

theorem findings_eq_of_perm {answer : (call : Call) → call.Answer} {request request' : Request}
    (lists : ListsKinds answer) {units others : List WorkUnit} (perm : units.Perm others)
    (planned : ∀ unit ∈ units, unit ∈ request.units) :
    (Report.assemble request (units.map (·.worth answer request))).findings =
      (Report.assemble request' (others.map (·.worth answer request))).findings := by
  have records : (Report.assemble request (units.map (·.worth answer request))).records =
      (Report.assemble request' (others.map (·.worth answer request))).records := by
    rw [Report.records_assemble, Report.records_assemble, List.flatMap_map, List.flatMap_map]
    refine sort_eq_of_apart _ Record.precedes_iff perm ?_
    intro unit inside other inside' _ member _ member' same
    exact WorkUnit.eq_of_record_key lists (planned unit inside) (planned other inside') member
      member' same
  have issues : (Report.assemble request (units.map (·.worth answer request))).summary.issues =
      (Report.assemble request' (others.map (·.worth answer request))).summary.issues := by
    rw [Report.issues_assemble, Report.issues_assemble, List.flatMap_map, List.flatMap_map]
    refine sort_eq_of_apart _ Issue.precedes_iff perm ?_
    intro unit inside other inside' _ member _ member' same
    exact WorkUnit.eq_of_issue_key (planned unit inside) (planned other inside') member member' same
  have empty := ((perm.map (·.worth answer request)).map (·.emptyListings)).sum_nat
  rw [Report.findings, Report.findings, Report.operations_assemble, Report.operations_assemble,
    Report.emptyListings_assemble, Report.emptyListings_assemble, records, issues, empty]

/-- What a sweep comes to where each call has one answer, with the units in their planned order. -/
def Request.settled (answer : (call : Call) → call.Answer) (request : Request) :
    Except SweepError Report :=
  if ∀ unit ∈ request.units, (unit.resultOf answer request).isSome = true then
    .ok (.assemble request (request.units.map (·.worth answer request)))
  else .error .undefinedAge

namespace Request

variable {answer : (call : Call) → call.Answer} {request other : Request}

theorem units_perm (accounts : other.accounts.Perm request.accounts)
    (regions : other.regions.Perm request.regions) (kinds : other.kinds.Perm request.kinds) :
    other.units.Perm request.units := WorkUnit.plan_perm accounts regions kinds

theorem worth_congr (agrees : request.Agrees other) :
    WorkUnit.worth answer other = WorkUnit.worth answer request := by
  funext unit
  rw [WorkUnit.worth, WorkUnit.worth, WorkUnit.resultOf_congr agrees]

theorem settled_findings (lists : ListsKinds answer) (agrees : request.Agrees other)
    (perm : other.units.Perm request.units) :
    (request.settled answer).map Report.findings = (other.settled answer).map Report.findings := by
  have alike : (∀ unit ∈ other.units, (unit.resultOf answer other).isSome = true) ↔
      ∀ unit ∈ request.units, (unit.resultOf answer request).isSome = true := by
    simp only [WorkUnit.resultOf_congr agrees, perm.mem_iff]
  by_cases all : ∀ unit ∈ request.units, (unit.resultOf answer request).isSome = true
  · rw [settled, settled, if_pos all, if_pos (alike.mpr all), worth_congr agrees]
    exact congrArg Except.ok (findings_eq_of_perm lists perm.symm fun _ planned => planned)
  · rw [settled, settled, if_neg all, if_neg (mt alike.mp all)]

theorem settled_congr (agrees : request.Agrees other) (accounts : other.accounts = request.accounts)
    (regions : other.regions = request.regions) (kinds : other.kinds = request.kinds) :
    request.settled answer = other.settled answer := by
  have planned : other.units = request.units := by rw [units, units, accounts, regions, kinds]
  have assembled : Report.assemble other = Report.assemble request := by
    funext results
    simp only [Report.assemble, accounts, regions, kinds, agrees.dryRun, agrees.now]
  simp only [settled, planned, assembled, WorkUnit.resultOf_congr agrees, worth_congr agrees]

private theorem runUnits_eq (request : Request) (units : List WorkUnit) :
    Id.run (request.runUnits (m := Id) answer units) =
      if ∀ unit ∈ units, (unit.resultOf answer request).isSome = true then
        .ok (units.map fun unit => (unit, unit.worth answer request))
      else .error .undefinedAge := by
  induction units with
  | nil => simp [runUnits]
  | cons unit units ih =>
    have step : Id.run (request.runUnits (m := Id) answer (unit :: units)) =
        (unit.resultOf answer request).elim (.error .undefinedAge) fun result =>
          (Id.run (request.runUnits (m := Id) answer units)).map ((unit, result) :: ·) := by
      rw [runUnits]
      cases found : unit.resultOf answer request with
      | none =>
        have none : (unit.sweep request).run (m := Id) answer = none := found
        rw [none]
        rfl
      | some result =>
        have some : (unit.sweep request).run (m := Id) answer = some result := found
        rw [some]
        rfl
    rw [step, ih]
    cases found : unit.resultOf answer request with
    | none => simp [found]
    | some result =>
      by_cases all : ∀ unit ∈ units, (unit.resultOf answer request).isSome = true
      · have whole : ∀ other ∈ unit :: units, (other.resultOf answer request).isSome = true := by
          simpa [found] using all
        rw [if_pos all, if_pos whole, List.map_cons, WorkUnit.worth_of_resultOf found]
        rfl
      · have broken : ¬ ∀ other ∈ unit :: units, (other.resultOf answer request).isSome = true := by
          simpa [found] using all
        rw [if_neg all, if_neg broken]
        rfl

/-- A run in the planned order is one of the schedules. -/
theorem run_eq_settled {hasExecutor : Bool} (ready : request.check hasExecutor = .ok ()) :
    (Id.run (request.run (m := Id) hasExecutor answer)).map (·.1) = request.settled answer := by
  have whole : (Id.run (request.run (m := Id) hasExecutor answer)).map (·.1) =
      (Id.run (request.runUnits (m := Id) answer request.units)).map
        fun results => Report.assemble request (results.map (·.2)) := by
    rw [run, ready]
    change ((Id.run (request.runUnits (m := Id) answer request.units)).map _).map _ = _
    cases Id.run (request.runUnits (m := Id) answer request.units) with
    | error => rfl
    | ok => rfl
  rw [whole, runUnits_eq, settled]
  split
  · simp only [Except.map, List.map_map]
    rfl
  · rfl

end Request

namespace Notice

def record? : Notice → Option Record
  | .record one => some one
  | .unitFinished _ => none

/-- The notices tell of these units, in this order, and of these records of theirs: a record belongs to the unit
whose end is told next. -/
inductive Tells : List (WorkUnit × List Record) → List Notice → Prop
  | nil : Tells [] []
  | ended {unit groups notices} (later : Tells groups notices) :
      Tells ((unit, []) :: groups) (.unitFinished unit :: notices)
  | told {unit one records groups notices} (later : Tells ((unit, records) :: groups) notices) :
      Tells ((unit, one :: records) :: groups) (.record one :: notices)

variable {unit : WorkUnit} {groups : List (WorkUnit × List Record)} {notices : List Notice}

theorem Tells.records (tells : Tells groups notices) :
    notices.filterMap record? = groups.flatMap (·.2) := by
  induction tells with
  | nil => rfl
  | ended _ ih => simpa [List.filterMap_cons, record?] using ih
  | told _ ih => simpa [List.filterMap_cons, record?] using ih

theorem tells_append (records : List Record) (later : Tells groups notices) :
    Tells ((unit, records) :: groups) (records.map .record ++ .unitFinished unit :: notices) := by
  induction records with
  | nil => exact .ended later
  | cons one records ih => exact .told ih

/-- Nothing else tells of these units and records. -/
theorem tells_iff : Tells groups notices ↔
    notices = groups.flatMap fun group => group.2.map .record ++ [.unitFinished group.1] := by
  constructor
  · intro tells
    induction tells with
    | nil => rfl
    | @ended unit _ _ _ ih => exact congrArg (.unitFinished unit :: ·) ih
    | @told _ one _ _ _ _ ih => exact congrArg (.record one :: ·) ih
  · rintro rfl
    induction groups with
    | nil => exact .nil
    | cons group groups ih =>
      rw [List.flatMap_cons, List.append_assoc]
      exact tells_append group.2 ih

end Notice

namespace Pool

variable {answer : (call : Call) → call.Answer} {request other : Request} {pool rival : Pool}

theorem Reached.resultOf_delivered (reached : Reached (.fixed answer) request pool)
    {delivery : Delivery} (member : delivery ∈ pool.sent ++ pool.received) :
    delivery.unit.resultOf answer request = some delivery.result := by
  obtain ⟨-, allowed, swept⟩ := reached.delivered member
  exact WorkUnit.resultOf_eq_iff.mpr ⟨_, allowed, swept⟩

theorem Reached.resultOf_aborted (reached : Reached (.fixed answer) request pool) {unit : WorkUnit}
    {events : List Event} (member : (⟨unit, events, .abort⟩ : Worker) ∈ pool.jobs) :
    unit ∈ request.units ∧ unit.resultOf answer request = none := by
  have accounted := reached.accounted
  have ends := (accounted.steps _ member).trans_ends .abort
  rw [List.append_nil] at ends
  have planned : unit ∈ pool.waiting ++ pool.jobs.map (·.unit) :=
    List.mem_append_right _ (List.mem_map_of_mem (f := (·.unit)) member)
  exact ⟨accounted.units.mem_iff.mp planned, WorkUnit.resultOf_eq_iff.mpr
    ⟨events, accounted.allowed _ member, WorkUnit.ends_sweep_iff.mp ends⟩⟩

theorem Reached.resultOf_of_isFinished (reached : Reached (.fixed answer) request pool)
    (finished : pool.isFinished = true) :
    ∀ unit ∈ request.units, (unit.resultOf answer request).isSome = true := by
  intro unit planned
  have received := (reached.received_units finished).mem_iff.mpr planned
  obtain ⟨delivery, done, rfl⟩ := List.mem_map.mp received
  rw [reached.resultOf_delivered (List.mem_append_right _ done)]
  rfl

/-- A run that can go no further comes to what the request settles on. -/
theorem Reached.outcome_eq_settled (lists : ListsKinds answer)
    (reached : Reached (.fixed answer) request pool) (stuck : pool.IsStuck request) :
    pool.outcome request = request.settled answer := by
  by_cases finished : pool.isFinished = true
  · have results : pool.received.map (·.result) =
        (pool.received.map (·.unit)).map (·.worth answer request) := by
      rw [List.map_map]
      refine List.map_congr_left fun delivery done => ?_
      exact (WorkUnit.worth_of_resultOf
        (reached.resultOf_delivered (List.mem_append_right _ done))).symm
    have perm := reached.received_units finished
    rw [outcome, if_pos finished, Request.settled, if_pos (reached.resultOf_of_isFinished finished),
      report, results]
    refine congrArg Except.ok (Report.assemble_eq_of_findings ?_)
    exact findings_eq_of_perm lists perm fun unit inside => perm.mem_iff.mp inside
  · -- The worker that cannot go on has a unit without a result, so nothing is settled either.
    obtain ⟨unit, events, aborted⟩ := (reached.finished_or_aborted stuck).resolve_left finished
    obtain ⟨planned, none⟩ := reached.resultOf_aborted aborted
    rw [outcome, if_neg finished, Request.settled, if_neg]
    intro all
    have some := all unit planned
    rw [none] at some
    cases some

/-- A run that can go no further without being finished has met an undefined age. -/
theorem Reached.undefined_of_stuck (reached : Reached (.fixed answer) request pool)
    (stuck : pool.IsStuck request) (unfinished : pool.isFinished = false) :
    ∃ unit ∈ request.units, ∃ kind ∈ unit.kinds, ∃ policy listed,
      request.policies kind = some policy ∧
      answer (.list unit.account unit.region kind) = .ok listed ∧
      ¬ unit.Defined policy request.now listed := by
  obtain ⟨unit, planned, kind, turn, policy, listed, ruled, answered, undefined⟩ :=
    reached.undefined_of_unfinished stuck (by simp [unfinished])
  exact ⟨unit, planned, kind, turn, policy, listed, ruled, answered.symm, undefined⟩

/-- What a finished run has done: every planned unit is taken and received as often as it is planned,
the records are sorted, and the observer is told each of them once, right before the end of its unit. -/
structure Complete (request : Request) (pool : Pool) : Prop where
  taken : (pool.dialogues.map (·.1)).Perm request.units
  received : (pool.received.map (·.unit)).Perm request.units
  sorted : (pool.report request).records.Pairwise fun a b => a.key ≤ b.key
  reported : (pool.report request).records.Perm (pool.received.flatMap (·.result.records))
  once : (pool.notices.filterMap Notice.record?).Perm (pool.report request).records
  told : Notice.Tells (pool.received.map fun delivery => (delivery.unit, delivery.result.records)) pool.notices

theorem Reached.complete {behaviour : Behaviour} (reached : Reached behaviour request pool)
    (finished : pool.isFinished = true) : Complete request pool := by
  obtain ⟨-, jobs⟩ := jobs_of_isFinished finished
  have received := reached.received_units finished
  have told : Notice.Tells (pool.received.map fun delivery => (delivery.unit, delivery.result.records))
      pool.notices := by
    rw [Notice.tells_iff, List.flatMap_map]
    rfl
  constructor
  · rw [dialogues_eq, jobs, List.map_map, List.map_map]
    exact received
  · exact received
  · exact Report.records_sorted
  · exact report_records_perm
  · rw [told.records, List.flatMap_map]
    exact report_records_perm.symm
  · exact told

/-- Runs of requests that judge alike and sweep the same, in whatever order and with however many
workers, end after finitely many moves and come to the same findings; they come to the same report if
the requests name what is swept in the same order. Nothing but an undefined age keeps a run from being
complete. -/
theorem Reached.schedule_independent (lists : ListsKinds answer) (agrees : request.Agrees other)
    (accounts : other.accounts.Perm request.accounts) (regions : other.regions.Perm request.regions)
    (kinds : other.kinds.Perm request.kinds) (reached : Reached (.fixed answer) request pool)
    (reached' : Reached (.fixed answer) other rival) :
    (∃ bound, ∀ moves next, (∀ move ∈ moves, move.Fits (.fixed answer)) →
      pool.play request moves = some next → moves.length ≤ bound) ∧
    (pool.isFinished = true → Complete request pool) ∧
    (pool.IsStuck request → pool.isFinished = false →
      ∃ unit ∈ request.units, ∃ kind ∈ unit.kinds, ∃ policy listed,
        request.policies kind = some policy ∧
        answer (.list unit.account unit.region kind) = .ok listed ∧
        ¬ unit.Defined policy request.now listed) ∧
    (pool.IsStuck request → rival.IsStuck other →
      (pool.outcome request).map Report.findings = (rival.outcome other).map Report.findings ∧
      (other.accounts = request.accounts → other.regions = request.regions →
        other.kinds = request.kinds → pool.outcome request = rival.outcome other)) := by
  refine ⟨⟨pool.remaining answer request, ?_⟩, reached.complete, reached.undefined_of_stuck, ?_⟩
  · intro moves next fits played
    have total := length_add_remaining fits played
    omega
  · intro stuck stuck'
    rw [reached.outcome_eq_settled lists stuck, reached'.outcome_eq_settled lists stuck']
    exact ⟨Request.settled_findings lists agrees (Request.units_perm accounts regions kinds),
      Request.settled_congr agrees⟩

/-- Two workers on two regions, and one on the same regions in the other order. -/
theorem schedule_independent_regions :
    let answer := (Capture.ofMachine .untagged).lister.answering (.ok ⟨0⟩)
    let request := { Request.forMachines with regions := ["us-east-1", "eu-west-1"], workers := 2 }
    let other := { Request.forMachines with regions := ["eu-west-1", "us-east-1"], workers := 0 }
    ∃ pool rival, Reached (.fixed answer) request pool ∧ Reached (.fixed answer) other rival ∧
      pool.isFinished = true ∧ rival.isFinished = true ∧ Complete request pool ∧
      (pool.outcome request).map Report.findings = (rival.outcome other).map Report.findings := by
  intro answer request other
  have lists : ListsKinds answer := by
    intro account region kind listed answered one present
    exact ((Capture.mem_lister_iff answered).mp present).2
  have first : ((start request).play request [.take 0, .take 1, .ask 1 answer, .send 1,
      .ask 0 answer, .ask 0 answer, .ask 0 answer, .send 0, .receive, .receive]).map
        (·.isFinished) = some true := by
    decide +kernel
  have second : ((start other).play other [.take 0, .ask 0 answer, .send 0, .take 0,
      .ask 0 answer, .ask 0 answer, .ask 0 answer, .send 0, .receive, .receive]).map
        (·.isFinished) = some true := by
    decide +kernel
  obtain ⟨pool, played, finished⟩ := Option.map_eq_some_iff.mp first
  obtain ⟨rival, played', finished'⟩ := Option.map_eq_some_iff.mp second
  have reached : Reached (.fixed answer) request pool :=
    reached_of_play .start (by simp [Move.Fits, Behaviour.fixed]) played
  have reached' : Reached (.fixed answer) other rival :=
    reached_of_play .start (by simp [Move.Fits, Behaviour.fixed]) played'
  have agrees : request.Agrees other := ⟨rfl, rfl, rfl⟩
  have independent := reached.schedule_independent lists agrees (List.Perm.refl _)
    (List.Perm.swap _ _ _) (List.Perm.refl _) reached'
  exact ⟨pool, rival, reached, reached', finished, finished', independent.2.1 finished,
    (independent.2.2.2 (isStuck_of_isFinished finished) (isStuck_of_isFinished finished')).1⟩

end Pool
end Retention
