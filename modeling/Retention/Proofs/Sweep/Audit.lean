import Retention.Proofs.Sweep.Assembly
import Retention.Proofs.Sweep.Transcript
import Retention.Report.RunLog

/-!
What a report tells of its run. Each execution has the one record that asked for it, with what came of
it, and each failure has one issue; nothing else has. So the report and the run log can be checked
against the calls that were made, however often an id occurs and in whatever order units were received.
-/
namespace Retention

/-- An operation that was carried out, with what came of it. -/
structure Execution where
  operation : Operation
  snapshot : Snapshot
  error : Option String
  failedCount : UInt64
deriving DecidableEq

namespace Execution

/-- A trial leaves neither an error nor a count. -/
def ofAnswer (operation : Operation) (snapshot : Snapshot) :
    Except ExecutionError Outcome → Execution
  | .ok outcome => ⟨operation, snapshot, none, outcome.failedCount⟩
  | .error failure =>
    ⟨operation, snapshot, if failure.isBenign then none else some failure.message, 0⟩

/-- The entry of a run log. -/
def entry (execution : Execution) : Json := .object <|
  [("account", execution.snapshot.account.toJson), ("region", .str execution.snapshot.region),
   ("kind", execution.snapshot.kind.toJson), ("id", .str execution.snapshot.id),
   ("operation", .str (execution.operation.label execution.snapshot.kind))] ++
  (if execution.failedCount = 0 then [] else [("failed_count", .word execution.failedCount)]) ++
  execution.error.toList.map fun error => ("error", .str error)

end Execution

/-- What a record says was carried out; nothing, if its operation changes nothing. -/
def Record.execution? (record : Record) : Option Execution :=
  if record.verdict.operation.isMutating then
    some ⟨record.verdict.operation, record.snapshot, record.verdict.error, record.failedCount⟩
  else none

namespace Event

def execution? : Event → Option Execution
  | ⟨.execute operation snapshot, answer⟩ => some (.ofAnswer operation snapshot answer)
  | _ => none

def listingIssue? : Event → Option Issue
  | ⟨.list account region kind, .error failure⟩ =>
    some ⟨.listing, account, region, kind, [], failure.message⟩
  | _ => none

/-- A trial is no failure of an execution. -/
def executionIssue? : Event → Option Issue
  | ⟨.execute _ snapshot, .error failure⟩ =>
    if failure.isBenign then none
    else some ⟨.execution, snapshot.account, snapshot.region, snapshot.kind, [snapshot.id],
      failure.message⟩
  | _ => none

/-- A wait fails with every error, a trial included. -/
def waitIssue? : Event → Option Issue
  | ⟨.wait account region ids, .error failure⟩ =>
    some ⟨WorkUnit.waitIssueKind failure, account, region, .vmInstance, ids, failure.message⟩
  | _ => none

def issue? (event : Event) : Option Issue :=
  event.listingIssue? <|> event.executionIssue? <|> event.waitIssue?

/-- A listing that came back without a resource. -/
def isVacant : Event → Bool
  | ⟨.list .., .ok []⟩ => true
  | _ => false

end Event

/-- The issue, moved to another kind of resource. -/
def Issue.under (kind : Kind) (issue : Issue) : Issue := { issue with resourceKind := kind }

theorem Issue.under_self (issue : Issue) : issue.under issue.resourceKind = issue := rfl

/-- An issue apart from the kind of resource. -/
def Issue.gist (issue : Issue) : IssueKind × Account × String × List String × String :=
  (issue.kind, issue.account, issue.region, issue.resourceIds, issue.message)

theorem Event.site_issue {event : Event} {issue : Issue} (raised : event.issue? = some issue) :
    issue.site = event.call.site := by
  obtain ⟨call, answer⟩ := event
  cases call with
  | list | wait => cases answer <;> cases raised; rfl
  | execute operation snapshot =>
    cases answer with
    | ok => cases raised
    | error failure =>
      cases benign : failure.isBenign <;>
        simp [issue?, listingIssue?, executionIssue?, waitIssue?, benign] at raised
      rw [← raised]
      rfl

namespace WorkUnit

variable {unit : WorkUnit} {request : Request} {kind : Kind} {kinds : List Kind}
  {events : List Event} {result : UnitResult}

/-- A record of the unit with which nothing has been done. -/
structure Fresh (unit : WorkUnit) (record : Record) : Prop where
  account : record.snapshot.account = unit.account
  region : record.snapshot.region = unit.region
  error : record.verdict.operation.isMutating = true → record.verdict.error = none
  failedCount : record.failedCount = 0

theorem fresh_recordOf {policy : Policy} {now : Instant} {listed : List Listed} :
    ∀ record ∈ listed.map (unit.recordOf policy now), unit.Fresh record := by
  intro record judged
  have error := error_recordOf record judged
  obtain ⟨one, -, rfl⟩ := List.mem_map.mp judged
  exact ⟨account_snapshotOf one, region_snapshotOf one, error, rfl⟩

theorem execution?_afterExecution (kind : Kind) {record : Record} (fresh : unit.Fresh record)
    (mutating : record.verdict.operation.isMutating = true)
    (answer : Except ExecutionError Outcome) :
    (unit.afterExecution kind record answer).1.execution? = (execution record answer).execution? := by
  have clean := fresh.error mutating
  have nothing := fresh.failedCount
  cases answer with
  | ok outcome =>
    simp [afterExecution, Record.execution?, execution, Event.execution?, Execution.ofAnswer,
      mutating, clean]
  | error failure =>
    cases benign : failure.isBenign <;>
      simp [afterExecution, Record.execution?, execution, Event.execution?, Execution.ofAnswer,
        mutating, clean, nothing, benign]

theorem issues_afterExecution {record : Record} (fresh : unit.Fresh record)
    (answer : Except ExecutionError Outcome) :
    (unit.afterExecution kind record answer).2 =
      ((execution record answer).issue?.toList).map (·.under kind) := by
  have account := fresh.account
  have region := fresh.region
  cases answer with
  | ok outcome => rfl
  | error failure =>
    cases benign : failure.isBenign <;>
      simp [afterExecution, issue, execution, Event.issue?, Event.listingIssue?,
        Event.executionIssue?, Event.waitIssue?, Issue.under, benign, account, region]

theorem CarriedOut.executions {records done : List Record} {issues : List Issue}
    (carried : CarriedOut unit kind records events done issues)
    (fresh : ∀ record ∈ records, unit.Fresh record) :
    done.filterMap Record.execution? = events.filterMap Event.execution? := by
  induction carried with
  | nil => rfl
  | @spared record _ _ _ _ idle _ ih =>
    have none : record.execution? = none := by simp [Record.execution?, idle]
    rw [List.filterMap_cons_none none]
    exact ih fun later member => fresh later (List.mem_cons_of_mem _ member)
  | @executed record _ _ _ _ mutating answer _ ih =>
    have rest := ih fun later member => fresh later (List.mem_cons_of_mem _ member)
    have first := execution?_afterExecution kind (fresh record List.mem_cons_self) mutating answer
    rw [List.filterMap_cons, List.filterMap_cons, first, rest]

theorem CarriedOut.issues_eq {records done : List Record} {issues : List Issue}
    (carried : CarriedOut unit kind records events done issues)
    (fresh : ∀ record ∈ records, unit.Fresh record) :
    issues = (events.filterMap Event.issue?).map (·.under kind) := by
  induction carried with
  | nil => rfl
  | spared _ _ ih => exact ih fun later member => fresh later (List.mem_cons_of_mem _ member)
  | @executed record _ _ _ _ _ answer _ ih =>
    have rest := ih fun later member => fresh later (List.mem_cons_of_mem _ member)
    rw [issues_afterExecution (fresh record List.mem_cons_self), rest]
    cases raised : (WorkUnit.execution record answer).issue? <;> simp [raised]

theorem CarriedOut.not_vacant {records done : List Record} {issues : List Issue}
    (carried : CarriedOut unit kind records events done issues) :
    events.countP (·.isVacant) = 0 := by
  refine List.countP_eq_zero.mpr fun event member => ?_
  obtain ⟨record, -, -, answer, rfl⟩ := carried.execution member
  exact Bool.false_ne_true

theorem SweptKind.lists_of_dry {outcome : Option (UnitResult × Bool)}
    (swept : SweptKind unit request kind events outcome) (dry : request.dryRun = true) :
    ∀ event ∈ events, ∃ answer, event = unit.listing kind answer := by
  cases swept with
  | unruled => simp
  | refused | undefined | vacant => simp
  | judged _ _ _ handled =>
    cases handled with
    | dry => simp
    | applied wet | settled wet | paused wet => simp [dry] at wet

theorem SweptKinds.lists_of_dry {outcome : Option UnitResult}
    (swept : SweptKinds unit request kinds events outcome) (dry : request.dryRun = true) :
    ∀ event ∈ events, ∃ kind answer, event = unit.listing kind answer := by
  induction swept with
  | nil => simp
  | broken head | stopped head => exact fun event member => ⟨_, head.lists_of_dry dry event member⟩
  | goesOn head _ ih =>
    intro event member
    rcases List.mem_append.mp member with old | new
    · exact ⟨_, head.lists_of_dry dry event old⟩
    · exact ih event new

theorem SweptKind.executions {goesOn : Bool}
    (swept : SweptKind unit request kind events (some (result, goesOn)))
    (wet : request.dryRun = false) :
    result.records.filterMap Record.execution? = events.filterMap Event.execution? := by
  cases swept with
  | unruled | refused | vacant => rfl
  | judged _ _ _ handled =>
    rw [List.filterMap_cons_none (by rfl)]
    cases handled with
    | dry dry => simp [wet] at dry
    | applied _ _ carried | settled _ _ carried => exact carried.executions fresh_recordOf
    | paused _ _ carried =>
      rw [carried.executions fresh_recordOf, List.filterMap_append]
      simp [pause, Event.execution?]

theorem SweptKind.issues_eq {goesOn : Bool}
    (swept : SweptKind unit request kind events (some (result, goesOn))) :
    result.issues = (events.filterMap Event.issue?).map (·.under kind) := by
  cases swept with
  | unruled | refused | vacant => rfl
  | judged _ _ _ handled =>
    rw [List.filterMap_cons_none (by rfl)]
    cases handled with
    | dry => rfl
    | applied _ _ carried | settled _ _ carried => exact carried.issues_eq fresh_recordOf
    | @paused done past issues _ machines carried _ answer =>
      have last : (unit.afterWait (awaited done) answer).toList =
          ([unit.pause (awaited done) answer].filterMap Event.issue?).map (·.under kind) := by
        subst machines
        cases answer <;> rfl
      rw [List.filterMap_append, List.map_append, ← carried.issues_eq fresh_recordOf, ← last]

theorem SweptKind.emptyListings_eq {goesOn : Bool}
    (swept : SweptKind unit request kind events (some (result, goesOn))) :
    result.emptyListings = events.countP (·.isVacant) := by
  cases swept with
  | unruled | refused | vacant => rfl
  | @judged policy listed later _ _ _ present _ handled =>
    have filled : (unit.listing kind (.ok listed)).isVacant = false := by
      cases listed with
      | nil => exact absurd rfl present
      | cons => rfl
    rw [List.countP_cons_of_neg (by simp [filled])]
    cases handled with
    | dry => rfl
    | applied _ _ carried | settled _ _ carried => exact carried.not_vacant.symm
    | paused _ _ carried =>
      rw [List.countP_append, carried.not_vacant]
      simp [pause, Event.isVacant]

theorem SweptKinds.executions (swept : SweptKinds unit request kinds events (some result))
    (wet : request.dryRun = false) :
    result.records.filterMap Record.execution? = events.filterMap Event.execution? := by
  obtain ⟨turns, all⟩ := swept.turns rfl
  rw [all.records, all.asked, List.filterMap_flatMap, List.filterMap_flatMap]
  exact List.flatMap_congr fun turn member => (all.swept turn member).executions wet

/-- Whatever the listings hold, an issue is right about all but the kind of resource. -/
theorem SweptKinds.gists (swept : SweptKinds unit request kinds events (some result)) :
    result.issues.map Issue.gist = (events.filterMap Event.issue?).map Issue.gist := by
  obtain ⟨turns, all⟩ := swept.turns rfl
  rw [all.issues, all.asked, List.filterMap_flatMap, List.map_flatMap, List.map_flatMap]
  refine List.flatMap_congr fun turn member => ?_
  rw [(all.swept turn member).issues_eq, List.map_map]
  rfl

theorem SweptKinds.issues_eq (swept : SweptKinds unit request kinds events (some result))
    (allowed : Behaviour.askedKinds.Allows events) :
    result.issues = events.filterMap Event.issue? := by
  obtain ⟨turns, all⟩ := swept.turns rfl
  rw [all.issues, all.asked, List.filterMap_flatMap]
  refine List.flatMap_congr fun turn member => ?_
  have part := all.swept turn member
  rw [part.issues_eq]
  refine (List.map_congr_left fun issue raised => ?_).trans (List.map_id _)
  obtain ⟨event, asked, raised⟩ := List.mem_filterMap.mp raised
  have here := part.site (allowed.mono (all.events_subset member)) event asked
  have own : issue.resourceKind = turn.kind := by
    rw [← Event.site_issue raised] at here
    exact congrArg (·.2.2) here
  exact own ▸ issue.under_self

theorem SweptKinds.emptyListings_eq (swept : SweptKinds unit request kinds events (some result)) :
    result.emptyListings = events.countP (·.isVacant) := by
  obtain ⟨turns, all⟩ := swept.turns rfl
  rw [all.emptyListings, all.asked, List.countP_flatMap]
  refine congrArg List.sum (List.map_congr_left fun turn member => ?_)
  exact (all.swept turn member).emptyListings_eq

end WorkUnit

theorem Record.filterMap_execution? (records : List Record) :
    records.filterMap Record.execution? =
      (records.filter (·.verdict.operation.isMutating)).map fun record =>
        ⟨record.verdict.operation, record.snapshot, record.verdict.error, record.failedCount⟩ := by
  induction records with
  | nil => rfl
  | cons record records ih =>
    cases mutating : record.verdict.operation.isMutating <;>
      simp [Record.execution?, mutating, ih]

/-- The entries of a run log are those of the executions that the records tell of. -/
theorem RunLog.entries_eq (startedAt finishedAt : Instant) (report : Report) :
    (RunLog.document startedAt finishedAt report).field? "executions" =
      some (.array ((report.records.filterMap Record.execution?).map Execution.entry)) := by
  have entries : report.pending.map RunLog.executionJson =
      (report.records.filterMap Record.execution?).map Execution.entry := by
    rw [Record.filterMap_execution?, List.map_map]
    rfl
  rw [← entries]
  rfl

theorem filterMap_orElse_perm {α β : Type} {f g : α → Option β}
    (apart : ∀ a, f a = none ∨ g a = none) (items : List α) :
    (items.filterMap fun a => f a <|> g a).Perm (items.filterMap f ++ items.filterMap g) := by
  induction items with
  | nil => rfl
  | cons a items ih =>
    cases left : f a with
    | none => cases right : g a with
      | none => simpa [left, right] using ih
      | some b => simpa [left, right] using (ih.cons b).trans List.perm_middle.symm
    | some b =>
      have right := (apart a).resolve_left (by simp [left])
      simpa [left, right] using ih.cons b

/-- An issue comes from a listing, from an execution or from a wait, and from no two of them. -/
theorem Event.issues_perm (events : List Event) :
    (events.filterMap Event.issue?).Perm (events.filterMap Event.listingIssue? ++
      (events.filterMap Event.executionIssue? ++ events.filterMap Event.waitIssue?)) := by
  have first (event : Event) : event.listingIssue? = none ∨
      (event.executionIssue? <|> event.waitIssue?) = none := by
    obtain ⟨call, answer⟩ := event
    cases call with
    | list => exact .inr rfl
    | execute | wait => exact .inl rfl
  have second (event : Event) : event.executionIssue? = none ∨ event.waitIssue? = none := by
    obtain ⟨call, answer⟩ := event
    cases call with
    | list | wait => exact .inl rfl
    | execute => exact .inr rfl
  exact (filterMap_orElse_perm first events).trans
    ((filterMap_orElse_perm second events).append_left _)

theorem Event.kind_listingIssue {events : List Event} :
    ∀ issue ∈ events.filterMap Event.listingIssue?, issue.kind = .listing := by
  intro issue member
  obtain ⟨⟨call, answer⟩, -, raised⟩ := List.mem_filterMap.mp member
  cases call with
  | list =>
    cases answer <;> cases raised
    rfl
  | execute | wait => cases raised

theorem Event.kind_executionIssue {events : List Event} :
    ∀ issue ∈ events.filterMap Event.executionIssue?, issue.kind = .execution := by
  intro issue member
  obtain ⟨⟨call, answer⟩, -, raised⟩ := List.mem_filterMap.mp member
  cases call with
  | list | wait => cases raised
  | execute =>
    cases answer with
    | ok => cases raised
    | error failure =>
      cases benign : failure.isBenign <;> simp [executionIssue?, benign] at raised
      rw [← raised]

namespace Pool

variable {behaviour : Behaviour} {request : Request} {pool : Pool}

/-- What the results of the units tell is what has been heard in the calls. -/
theorem Reached.told_perm {α : Type} (reached : Reached behaviour request pool)
    (finished : pool.isFinished = true) (tell : UnitResult → List α) (hear : Event → Option α)
    (faithful : ∀ delivery ∈ pool.received,
      tell delivery.result = delivery.events.filterMap hear) :
    (pool.received.flatMap fun delivery => tell delivery.result).Perm
      ((pool.events.map (·.2)).filterMap hear) := by
  have heard := ((reached.events_perm finished).map (·.2)).filterMap hear
  rw [List.map_flatMap, List.filterMap_flatMap] at heard
  refine List.Perm.trans (.of_eq ?_) heard.symm
  refine List.flatMap_congr fun delivery member => ?_
  rw [faithful delivery member, List.map_map]
  congr 1
  exact (List.map_id _).symm

theorem Reached.gists_perm (reached : Reached behaviour request pool)
    (finished : pool.isFinished = true) :
    ((pool.report request).summary.issues.map Issue.gist).Perm
      (((pool.events.map (·.2)).filterMap Event.issue?).map Issue.gist) := by
  have told := reached.told_perm finished (fun result => result.issues.map Issue.gist)
    (fun event => event.issue?.map Issue.gist) fun delivery member => by
      obtain ⟨-, -, swept⟩ := reached.delivered (List.mem_append_right _ member)
      rw [swept.gists, List.map_filterMap]
  rw [← List.map_flatMap, ← List.map_filterMap] at told
  exact (report_issues_perm.map _).trans told

theorem Reached.issues_perm (reached : Reached behaviour request pool)
    (finished : pool.isFinished = true)
    (allowed : Behaviour.askedKinds.Allows (pool.events.map (·.2))) :
    (pool.report request).summary.issues.Perm ((pool.events.map (·.2)).filterMap Event.issue?) := by
  have told := reached.told_perm finished UnitResult.issues Event.issue? fun delivery member => by
    obtain ⟨-, -, swept⟩ := reached.delivered (List.mem_append_right _ member)
    refine swept.issues_eq fun event asked => allowed event ?_
    exact List.mem_map_of_mem (f := (·.2)) (reached.asked member asked)
  exact report_issues_perm.trans told

theorem Reached.executions_perm (reached : Reached behaviour request pool)
    (finished : pool.isFinished = true) (wet : request.dryRun = false) :
    ((pool.report request).records.filterMap Record.execution?).Perm
      ((pool.events.map (·.2)).filterMap Event.execution?) := by
  have told := reached.told_perm finished
    (fun result => result.records.filterMap Record.execution?) Event.execution?
    fun delivery member => by
      obtain ⟨-, -, swept⟩ := reached.delivered (List.mem_append_right _ member)
      exact swept.executions wet
  rw [← List.filterMap_flatMap] at told
  exact (report_records_perm.filterMap _).trans told

theorem Reached.emptyListings_eq (reached : Reached behaviour request pool)
    (finished : pool.isFinished = true) :
    (pool.report request).summary.emptyListings = pool.events.countP (·.2.isVacant) := by
  rw [(reached.events_perm finished).countP_eq, List.countP_flatMap, report,
    Report.emptyListings_assemble, List.map_map]
  refine congrArg List.sum (List.map_congr_left fun delivery member => ?_)
  obtain ⟨-, -, swept⟩ := reached.delivered (List.mem_append_right _ member)
  simp only [Function.comp_apply, swept.emptyListings_eq, List.countP_map]
  rfl

/-- What is told of an applied run is what has been called. The records that ask for a change are the
executions, with their errors and counts; so are the entries of the run log. The issues of executions
are those of the failed ones, and of waits that failed other than by running out of time. -/
structure Audited (report : Report) (events : List Event) : Prop where
  records : (report.records.filterMap Record.execution?).Perm (events.filterMap Event.execution?)
  log : ∀ startedAt finishedAt, ∃ entries,
    (RunLog.document startedAt finishedAt report).field? "executions" = some (.array entries) ∧
      entries.Perm ((events.filterMap Event.execution?).map Execution.entry)
  gists : ((report.summary.issues.filter (·.kind = .execution)).map Issue.gist).Perm
    ((events.filterMap Event.executionIssue? ++
      (events.filterMap Event.waitIssue?).filter (·.kind = .execution)).map Issue.gist)
  issues : Behaviour.askedKinds.Allows events →
    (report.summary.issues.filter (·.kind = .execution)).Perm
      (events.filterMap Event.executionIssue? ++
        (events.filterMap Event.waitIssue?).filter (·.kind = .execution))

theorem Reached.only_lists (reached : Reached behaviour request pool) (dry : request.dryRun = true) :
    ∀ entry ∈ pool.events, ∃ account region kind, entry.2.call = .list account region kind := by
  intro entry member
  obtain ⟨-, dialogue, outcome, inside, -, swept⟩ :=
    reached.to_any.asked_in_dialogue Behaviour.any_responds member
  obtain ⟨kind, answer, same⟩ := swept.lists_of_dry dry entry.2 inside
  exact ⟨_, _, _, congrArg Event.call same⟩

/-- A dry run calls nothing but the lister. What an applied run tells is what it has called, nothing
lost and nothing told twice. -/
theorem Reached.audited (reached : Reached behaviour request pool) :
    (request.dryRun = true →
      ∀ entry ∈ pool.events, ∃ account region kind, entry.2.call = .list account region kind) ∧
    (request.dryRun = false → pool.isFinished = true →
      Audited (pool.report request) (pool.events.map (·.2))) := by
  refine ⟨reached.only_lists, fun wet finished => ?_⟩
  have records := reached.executions_perm finished wet
  -- Of the issues, those of listings are of another kind, and those of executions are all of this one.
  have chosen {β : Type} (view : Issue → β) :
      ((((pool.events.map (·.2)).filterMap Event.issue?).filter (·.kind = .execution)).map view).Perm
        (((pool.events.map (·.2)).filterMap Event.executionIssue? ++
          ((pool.events.map (·.2)).filterMap Event.waitIssue?).filter (·.kind = .execution)).map
            view) := by
    have parts := (Event.issues_perm (pool.events.map (·.2))).filter (·.kind = .execution)
    have listings : ((pool.events.map (·.2)).filterMap Event.listingIssue?).filter
        (·.kind = .execution) = [] :=
      List.filter_eq_nil_iff.mpr fun issue member => by simp [Event.kind_listingIssue issue member]
    have executions : ((pool.events.map (·.2)).filterMap Event.executionIssue?).filter
        (·.kind = .execution) = (pool.events.map (·.2)).filterMap Event.executionIssue? :=
      List.filter_eq_self.mpr fun issue member => by simp [Event.kind_executionIssue issue member]
    rw [List.filter_append, List.filter_append, listings, executions, List.nil_append] at parts
    exact parts.map view
  constructor
  · exact records
  · intro startedAt finishedAt
    exact ⟨_, RunLog.entries_eq startedAt finishedAt _, records.map _⟩
  · have told := (reached.gists_perm finished).filter (·.1 = .execution)
    rw [List.filter_map, List.filter_map] at told
    exact told.trans (chosen Issue.gist)
  · intro allowed
    have told := (reached.issues_perm finished allowed).filter (·.kind = .execution)
    have parts := chosen id
    rw [List.map_id, List.map_id] at parts
    exact told.trans parts

/-- An instance that could not be terminated is in the records, in the run log and in the issues. -/
theorem audited_failure :
    let lister := (Capture.ofMachine .untagged).lister
    let issue : Issue := ⟨.execution, .main, "us-east-1", .vmInstance, ["i-1"],
      "Terminate i-1 failed: denied"⟩
    ∃ pool, Reached (.listing lister) .forMachines pool ∧ Request.forMachines.dryRun = false ∧
      pool.isFinished = true ∧ Behaviour.askedKinds.Allows (pool.events.map (·.2)) ∧
      (pool.events.map (·.2)).filterMap Event.executionIssue? = [issue] ∧
      Audited (pool.report .forMachines) (pool.events.map (·.2)) ∧
      (pool.report .forMachines).summary.issues.filter (·.kind = .execution) = [issue] := by
  intro lister issue
  let answer := lister.answering (.error (.failed .terminate "i-1" "denied"))
  have run : ((start .forMachines).play .forMachines
      (Move.alone answer 2 ++ [.send 0, .receive])).map (fun pool =>
        (pool.isFinished, (pool.events.map (·.2)).filterMap Event.executionIssue?,
          (pool.events.map (·.2)).filterMap Event.waitIssue?)) =
      some (true, [issue], []) := by
    decide +kernel
  obtain ⟨pool, played, found⟩ := Option.map_eq_some_iff.mp run
  simp only [Prod.mk.injEq] at found
  obtain ⟨finished, raised, settled⟩ := found
  have possible (call : Call) : Behaviour.listing lister call (answer call) :=
    lister.answering_possible _ call
  have reached := reached_of_play .start (Move.alone_fits_to_end possible 2) played
  have allowed : Behaviour.askedKinds.Allows (pool.events.map (·.2)) := fun event member =>
    Capture.lister_listsKinds.askedKinds event.call event.answer (reached.allows event member)
  have audited := reached.audited.2 rfl finished
  have told := audited.issues allowed
  rw [raised, settled] at told
  exact ⟨pool, reached, rfl, finished, allowed, raised, audited, told.eq_singleton⟩

end Pool
end Retention
