import Mathlib.Algebra.BigOperators.Group.List.Basic
import Retention.Proofs.Sweep.Barrier
import Retention.Proofs.Sweep.Progress

/-!
What a dry run is worth. What is listed and how it is judged is the same whether or not it is carried
out, so an applied run comes to what the dry run of its request has shown. The one exception are volumes
that are left out because a wait for the instances of their region has failed.
-/
namespace Retention

/-- The record as it was judged, before anything was carried out. -/
def Record.asJudged (request : Request) (record : Record) : Record :=
  { record with
    verdict := { record.verdict with
      error := (request.policies record.kind).bind fun policy =>
        (Rules.decide record.snapshot policy request.now).error }
    failedCount := 0 }

/-- The result without what came of executions and waits. -/
def UnitResult.asJudged (request : Request) (result : UnitResult) : UnitResult :=
  ⟨result.records.map (·.asJudged request), result.issues.filter (·.kind = .listing),
    result.emptyListings⟩

namespace WorkUnit

variable {unit : WorkUnit} {request : Request} {lister : Lister} {kind : Kind} {kinds : List Kind}
  {events : List Event} {result : UnitResult}

/-- What a kind comes to before anything is carried out. -/
def forecast (unit : WorkUnit) (request : Request) (lister : Lister) (kind : Kind) : UnitResult :=
  match request.policies kind, lister unit.account unit.region kind with
  | none, _ => .empty
  | some _, .error failure => ⟨[], [unit.issue .listing kind [] failure.message], 0⟩
  | some policy, .ok listed =>
    ⟨listed.map (unit.recordOf policy request.now), [], if listed.isEmpty then 1 else 0⟩

def foretold (unit : WorkUnit) (request : Request) (lister : Lister) (kinds : List Kind) :
    UnitResult where
  records := kinds.flatMap fun kind => (unit.forecast request lister kind).records
  issues := kinds.flatMap fun kind => (unit.forecast request lister kind).issues
  emptyListings := (kinds.map fun kind => (unit.forecast request lister kind).emptyListings).sum

theorem foretold_singleton (kind : Kind) :
    unit.foretold request lister [kind] = unit.forecast request lister kind := by
  simp [foretold]

theorem asJudged_recordOf {policy : Policy} {one : Listed}
    (ruled : request.policies one.kind = some policy) :
    (unit.recordOf policy request.now one).asJudged request =
      unit.recordOf policy request.now one := by
  have same : (unit.recordOf policy request.now one).kind = one.kind := kind_snapshotOf one
  rw [Record.asJudged, same, ruled]
  rfl

theorem asJudged_afterExecution (record : Record) (answer : Except ExecutionError Outcome) :
    (unit.afterExecution kind record answer).1.asJudged request = record.asJudged request := by
  cases answer with
  | ok => rfl
  | error failure =>
    cases benign : failure.isBenign <;> simp [afterExecution, benign, Record.asJudged, Record.kind]

theorem kind_afterExecution (record : Record) (answer : Except ExecutionError Outcome) :
    ∀ issue ∈ (unit.afterExecution kind record answer).2, issue.kind = .execution := by
  cases answer with
  | ok => simp [afterExecution]
  | error failure =>
    cases benign : failure.isBenign <;> simp [afterExecution, benign, WorkUnit.issue]

theorem CarriedOut.asJudged (request : Request) {records done : List Record}
    {issues : List Issue} (carried : CarriedOut unit kind records events done issues) :
    done.map (·.asJudged request) = records.map (·.asJudged request) ∧
      issues.filter (·.kind = .listing) = [] := by
  induction carried with
  | nil => exact ⟨rfl, rfl⟩
  | spared _ _ ih => exact ⟨congrArg (_ :: ·) ih.1, ih.2⟩
  | @executed record _ _ _ _ _ answer _ ih =>
    constructor
    · rw [List.map_cons, List.map_cons, asJudged_afterExecution, ih.1]
    · rw [List.filter_append, ih.2, List.append_nil]
      refine List.filter_eq_nil_iff.mpr fun issue member => ?_
      simp [kind_afterExecution record answer issue member]

theorem Handled.asJudged {records : List Record} {goesOn : Bool}
    (handled : Handled unit request kind records events result goesOn) :
    result.asJudged request = ⟨records.map (·.asJudged request), [], 0⟩ := by
  cases handled with
  | dry => rfl
  | applied _ _ carried | settled _ _ carried =>
    obtain ⟨records, issues⟩ := carried.asJudged request
    rw [UnitResult.asJudged, records, issues]
  | @paused done past issues _ _ carried _ answer =>
    obtain ⟨records, issues'⟩ := carried.asJudged request
    have wait : (unit.afterWait (awaited done) answer).toList.filter (·.kind = .listing) = [] := by
      cases answer with
      | ok => rfl
      | error failure => cases failure <;> rfl
    rw [UnitResult.asJudged, records, List.filter_append, issues', wait]
    rfl

theorem SweptKind.asJudged {goesOn : Bool}
    (swept : SweptKind unit request kind events (some (result, goesOn)))
    (allowed : (Behaviour.listing lister).Allows events) (lists : lister.ListsKinds) :
    result.asJudged request = unit.forecast request lister kind := by
  have served {answer : Except ListingError (List Listed)}
      (asked : unit.listing kind answer ∈ events) :
      lister unit.account unit.region kind = answer := (allowed _ asked).symm
  cases swept with
  | unruled unruled =>
    rw [forecast, unruled]
    rfl
  | refused ruled failure =>
    rw [forecast, ruled, served List.mem_cons_self]
    rfl
  | vacant ruled =>
    rw [forecast, ruled, served List.mem_cons_self]
    rfl
  | @judged policy listed _ _ _ ruled present _ handled =>
    have answered := served List.mem_cons_self
    have kept : (listed.map (unit.recordOf policy request.now)).map (·.asJudged request) =
        listed.map (unit.recordOf policy request.now) := by
      rw [List.map_map]
      refine List.map_congr_left fun one member => asJudged_recordOf ?_
      rw [lists _ _ _ _ answered one member, ruled]
    rw [handled.asJudged, forecast, ruled, answered, kept]
    simp [present]

theorem Turns.asJudged {turns : List Turn}
    (all : Turns unit request kinds events result turns)
    (allowed : (Behaviour.listing lister).Allows events) (lists : lister.ListsKinds) :
    result.asJudged request = unit.foretold request lister (turns.map (·.kind)) := by
  have each {turn : Turn} (member : turn ∈ turns) :
      turn.result.asJudged request = unit.forecast request lister turn.kind :=
    (all.swept turn member).asJudged (allowed.mono (all.events_subset member)) lists
  rw [UnitResult.asJudged, foretold, all.records, all.issues, all.emptyListings, List.map_flatMap,
    List.filter_flatMap, List.flatMap_map, List.flatMap_map, List.map_map]
  congr 1
  · exact List.flatMap_congr fun turn member => congrArg UnitResult.records (each member)
  · exact List.flatMap_congr fun turn member => congrArg UnitResult.issues (each member)
  · refine congrArg List.sum (List.map_congr_left fun turn member => ?_)
    have same := congrArg UnitResult.emptyListings (each member)
    exact same

theorem site_forecast (lists : lister.ListsKinds) :
    (∀ record ∈ (unit.forecast request lister kind).records,
      record.site = (unit.account, unit.region, kind)) ∧
    ∀ issue ∈ (unit.forecast request lister kind).issues,
      issue.site = (unit.account, unit.region, kind) := by
  unfold forecast
  cases ruled : request.policies kind with
  | none => simp [UnitResult.empty]
  | some policy =>
    cases answered : lister unit.account unit.region kind with
    | error failure => simp [WorkUnit.issue, Issue.site]
    | ok listed =>
      refine ⟨fun record judged => ?_, by simp⟩
      obtain ⟨one, present, rfl⟩ := List.mem_map.mp judged
      rw [site_recordOf, lists _ _ _ _ answered one present]

theorem site_foretold (lists : lister.ListsKinds) :
    (∀ record ∈ (unit.foretold request lister kinds).records,
      ∃ kind ∈ kinds, record.site = (unit.account, unit.region, kind)) ∧
    ∀ issue ∈ (unit.foretold request lister kinds).issues,
      ∃ kind ∈ kinds, issue.site = (unit.account, unit.region, kind) := by
  constructor
  · intro record member
    obtain ⟨kind, turn, inside⟩ := List.mem_flatMap.mp member
    exact ⟨kind, turn, (site_forecast lists).1 record inside⟩
  · intro issue member
    obtain ⟨kind, turn, inside⟩ := List.mem_flatMap.mp member
    exact ⟨kind, turn, (site_forecast lists).2 issue inside⟩

theorem eq_of_site {other : WorkUnit} (planned : unit ∈ request.units)
    (planned' : other ∈ request.units) {site : Site}
    (here : ∃ kind ∈ unit.kinds, site = (unit.account, unit.region, kind))
    (here' : ∃ kind ∈ other.kinds, site = (other.account, other.region, kind)) : unit = other := by
  obtain ⟨kind, turn, rfl⟩ := here
  obtain ⟨kind', turn', same⟩ := here'
  simp only [Prod.mk.injEq] at same
  obtain ⟨account, region, rfl⟩ := same
  exact eq_of_mem_plan planned planned' account region turn turn'

theorem SweptKind.defined {goesOn : Bool} {policy : Policy} {listed : List Listed}
    (swept : SweptKind unit request kind events (some (result, goesOn)))
    (allowed : (Behaviour.listing lister).Allows events)
    (ruled : request.policies kind = some policy)
    (answered : lister unit.account unit.region kind = .ok listed) :
    unit.Defined policy request.now listed := by
  have served {answer : Except ListingError (List Listed)}
      (asked : unit.listing kind answer ∈ events) : answer = .ok listed :=
    (allowed _ asked).trans answered
  cases swept with
  | unruled unruled => simp [ruled] at unruled
  | refused _ failure => cases served List.mem_cons_self
  | vacant =>
    cases served List.mem_cons_self
    simp [Defined]
  | judged ruled' _ defined =>
    cases served List.mem_cons_self
    cases ruled.symm.trans ruled'
    exact defined

theorem filter_flatMap_of_level {α : Type} {entries : Kind → List α} {p : α → Bool}
    {chosen : Kind → Bool} (level : ∀ kind ∈ kinds, ∀ a ∈ entries kind, p a = chosen kind) :
    (kinds.flatMap entries).filter p = (kinds.filter chosen).flatMap entries := by
  induction kinds with
  | nil => rfl
  | cons kind kinds ih =>
    obtain ⟨first, rest⟩ := List.forall_mem_cons.mp level
    rw [List.flatMap_cons, List.filter_append, ih rest]
    cases taken : chosen kind with
    | true =>
      rw [List.filter_cons_of_pos taken, List.flatMap_cons, List.filter_eq_self.mpr fun a member =>
        (first a member).trans taken]
    | false =>
      rw [List.filter_cons_of_neg (by simp [taken]), List.filter_eq_nil_iff.mpr fun a member => by
        simp [first a member, taken]]
      rfl

theorem foretold_filter (lists : lister.ListsKinds) (p : Site → Bool) :
    (unit.foretold request lister kinds).records.filter (p ·.site) =
        (unit.foretold request lister
          (kinds.filter fun kind => p (unit.account, unit.region, kind))).records ∧
      (unit.foretold request lister kinds).issues.filter (p ·.site) =
        (unit.foretold request lister
          (kinds.filter fun kind => p (unit.account, unit.region, kind))).issues := by
  constructor
  · refine filter_flatMap_of_level fun kind _ record member => ?_
    rw [(site_forecast lists).1 record member]
  · refine filter_flatMap_of_level fun kind _ issue member => ?_
    rw [(site_forecast lists).2 issue member]

theorem Turns.vacant_count {turns : List Turn}
    (all : Turns unit request kinds events result turns)
    (allowed : (Behaviour.listing lister).Allows events) (lists : lister.ListsKinds)
    (p : Site → Bool) :
    events.countP (fun event => event.isVacant && p event.call.site) =
      (unit.foretold request lister ((turns.map (·.kind)).filter fun kind =>
        p (unit.account, unit.region, kind))).emptyListings := by
  have each {turn : Turn} (member : turn ∈ turns) :
      turn.events.countP (fun event => event.isVacant && p event.call.site) =
        if p (unit.account, unit.region, turn.kind) then
          (unit.forecast request lister turn.kind).emptyListings
        else 0 := by
    have part := all.swept turn member
    have possible := allowed.mono (all.events_subset member)
    have here := part.site fun event inside => lists.askedKinds _ _ (possible event inside)
    have counted := part.emptyListings_eq
    have same := congrArg UnitResult.emptyListings (part.asJudged possible lists)
    simp only [UnitResult.asJudged] at same
    rw [counted] at same
    split
    · rename_i chosen
      rw [← same]
      refine List.countP_congr fun event inside => ?_
      rw [here event inside, chosen, Bool.and_true]
    · rename_i left
      refine List.countP_eq_zero.mpr fun event inside => ?_
      simp [here event inside, left]
  have sums : turns.map (fun turn =>
      turn.events.countP fun event => event.isVacant && p event.call.site) = _ :=
    List.map_congr_left fun turn member => each member
  rw [all.asked, List.countP_flatMap, foretold, Function.comp_def, sums, List.sum_map_ite,
    List.filter_map, List.map_map]
  simp [Function.comp_def]

end WorkUnit

namespace Pool

variable {request : Request} {lister : Lister} {pool preview : Pool}

/-- What is left out: the volumes of the regions whose instances did not settle. -/
def skips (pool : Pool) (site : Site) : Bool :=
  site.2.2 = .volume && pool.unsettled site.1 site.2.1

theorem kinds_of_unsettled {account : Account} {region : String}
    (stopped : pool.unsettled account region = true)
    (turn : Kind.vmInstance ∈ (request.sharedUnit account region).kinds) :
    (request.sharedUnit account region).kinds.filter
      (fun kind => !pool.skips (account, region, kind)) = [.vmInstance] := by
  have wanted : Kind.vmInstance ∈ request.kinds := by
    simpa [WorkUnit.fused] using (List.mem_filter.mp turn).2
  by_cases present : Kind.volume ∈ request.kinds <;>
    simp [Request.sharedUnit, WorkUnit.fused, skips, stopped, wanted, present]

/-- What a unit has come to is what was foretold of it, without what is left out. -/
theorem Reached.asJudged (reached : Reached (.listing lister) request pool)
    (distinct : request.units.Nodup) (lists : lister.ListsKinds) {delivery : Delivery}
    (done : delivery ∈ pool.received) :
    delivery.result.asJudged request =
      delivery.unit.foretold request lister (delivery.unit.kinds.filter fun kind =>
        !pool.skips (delivery.unit.account, delivery.unit.region, kind)) := by
  have served : Reached .askedKinds request pool := reached.mono lists.askedKinds
  obtain ⟨planned, allowed, swept⟩ := reached.delivered (List.mem_append_right _ done)
  have asked := (served.delivered (List.mem_append_right _ done)).2.1
  by_cases quiet : ∀ event ∈ delivery.events, event.isFailedWait = false
  · obtain ⟨turns, all⟩ := swept.turns rfl
    have nothing : ∀ kind ∈ delivery.unit.kinds,
        pool.skips (delivery.unit.account, delivery.unit.region, kind) = false := by
      intro kind turn
      rw [← Bool.not_eq_true]
      intro skipped
      simp only [skips, Bool.and_eq_true, decide_eq_true_eq] at skipped
      obtain ⟨rfl, stopped⟩ := skipped
      have own := Request.eq_sharedUnit planned turn (by simp [WorkUnit.fused])
      obtain ⟨event, inside, failed⟩ :=
        (served.unsettled_delivery_iff distinct done own).mp stopped
      rw [quiet event inside] at failed
      cases failed
    rw [all.asJudged allowed lists, all.kinds_eq quiet, List.filter_eq_self.mpr fun kind turn => by
      rw [nothing kind turn, Bool.not_false]]
  · push Not at quiet
    obtain ⟨event, inside, failed⟩ := quiet
    rw [ne_eq, Bool.not_eq_false] at failed
    obtain ⟨result, same, machines⟩ := swept.of_failedWait
      (WorkUnit.vmInstance_notMem_tail planned) inside failed
    cases same
    obtain ⟨kind, turn, here⟩ := swept.site asked event inside
    have machine := Event.site_of_isFailedWait failed
    rw [here] at machine
    subst machine
    have own := Request.eq_sharedUnit planned turn (by simp [WorkUnit.fused])
    have stopped :=
      (served.unsettled_delivery_iff distinct done own).mpr ⟨event, inside, failed⟩
    rw [own] at turn
    have kept := kinds_of_unsettled stopped turn
    rw [← own] at kept
    rw [kept, WorkUnit.foretold_singleton, machines.asJudged allowed lists]

/-- What is foretold of a unit, without what is left out. -/
def expected (pool : Pool) (request : Request) (lister : Lister) (unit : WorkUnit) : UnitResult :=
  unit.foretold request lister (unit.kinds.filter fun kind =>
    !pool.skips (unit.account, unit.region, kind))

/-- Entries of a report come from the planned units, in whatever order these were received. -/
theorem Reached.sorted_eq {behaviour : Behaviour} (reached : Reached behaviour request pool)
    (finished : pool.isFinished = true) {α κ : Type} [LinearOrder κ] {key : α → κ}
    {le : α → α → Bool} (reads : ∀ a b, le a b = true ↔ key a ≤ key b) (site : α → Site)
    (keyed : ∀ a b, key a = key b → site a = site b) (entries : WorkUnit → List α)
    (here : ∀ unit, ∀ a ∈ entries unit,
      ∃ kind ∈ unit.kinds, site a = (unit.account, unit.region, kind)) :
    (pool.received.flatMap fun delivery => entries delivery.unit).mergeSort le =
      (request.units.flatMap entries).mergeSort le := by
  have perm := reached.received_units finished
  have apart : ∀ unit ∈ pool.received.map (·.unit), ∀ other ∈ pool.received.map (·.unit),
      ∀ a ∈ entries unit, ∀ b ∈ entries other, key a = key b → unit = other := by
    intro unit inside other inside' a member b member' same
    have there := here other b member'
    rw [← keyed a b same] at there
    exact WorkUnit.eq_of_site (perm.mem_iff.mp inside) (perm.mem_iff.mp inside')
      (here unit a member) there
  have sorted := sort_eq_of_apart entries reads perm apart
  rw [List.flatMap_map] at sorted
  exact sorted

section Judged

variable (reached : Reached (.listing lister) request pool) (distinct : request.units.Nodup)
  (lists : lister.ListsKinds) (finished : pool.isFinished = true)
include reached distinct lists finished

theorem Reached.judged_records : (pool.report request).records.map (·.asJudged request) =
    (request.units.flatMap fun unit => (pool.expected request lister unit).records).mergeSort
      Record.precedes := by
  have each : ∀ delivery ∈ pool.received, delivery.result.records.map (·.asJudged request) =
      (pool.expected request lister delivery.unit).records := fun delivery done =>
    congrArg UnitResult.records (reached.asJudged distinct lists done)
  have sorted := List.map_mergeSort (r := Record.precedes) (s := Record.precedes)
    (f := fun record => record.asJudged request)
    (l := pool.received.flatMap fun delivery => delivery.result.records) fun _ _ _ _ => rfl
  rw [report, Report.records_assemble, List.flatMap_map, sorted, List.map_flatMap,
    List.flatMap_congr each]
  refine reached.sorted_eq finished Record.precedes_iff Record.site ?_
    (fun unit => (pool.expected request lister unit).records) ?_
  · intro a b same
    obtain ⟨account, region, kind, -⟩ := Record.key_inj.mp same
    rw [Record.site, Record.site, account, region, kind]
  · intro unit record member
    obtain ⟨kind, turn, here⟩ := (WorkUnit.site_foretold lists).1 record member
    exact ⟨kind, (List.mem_filter.mp turn).1, here⟩

theorem Reached.judged_issues :
    (pool.report request).summary.issues.filter (·.kind = .listing) =
      (request.units.flatMap fun unit => (pool.expected request lister unit).issues).mergeSort
        Issue.precedes := by
  have each : ∀ delivery ∈ pool.received, delivery.result.issues.filter (·.kind = .listing) =
      (pool.expected request lister delivery.unit).issues := fun delivery done =>
    congrArg UnitResult.issues (reached.asJudged distinct lists done)
  rw [report, Report.issues_assemble, List.flatMap_map, mergeSort_filter Issue.precedes_iff,
    List.filter_flatMap, List.flatMap_congr each]
  refine reached.sorted_eq finished Issue.precedes_iff Issue.site ?_
    (fun unit => (pool.expected request lister unit).issues) ?_
  · intro a b same
    obtain ⟨account, region, kind⟩ := Issue.key_inj.mp same
    rw [Issue.site, Issue.site, account, region, kind]
  · intro unit issue member
    obtain ⟨kind, turn, here⟩ := (WorkUnit.site_foretold lists).2 issue member
    exact ⟨kind, (List.mem_filter.mp turn).1, here⟩

theorem Reached.judged_emptyListings : (pool.report request).summary.emptyListings =
    (request.units.map fun unit => (pool.expected request lister unit).emptyListings).sum := by
  have each : ∀ delivery ∈ pool.received, delivery.result.emptyListings =
      (pool.expected request lister delivery.unit).emptyListings := by
    intro delivery done
    have same := congrArg UnitResult.emptyListings (reached.asJudged distinct lists done)
    exact same
  have perm := (reached.received_units finished).map fun unit =>
    (pool.expected request lister unit).emptyListings
  rw [report, Report.emptyListings_assemble, List.map_map, ← perm.sum_nat, List.map_map]
  exact congrArg List.sum (List.map_congr_left each)

end Judged

section Dry

variable (reached : Reached (.listing lister) request pool) (lists : lister.ListsKinds)
  (dry : request.dryRun = true)
include reached dry

theorem Reached.skips_of_dry (site : Site) : pool.skips site = false := by
  have settled : pool.unsettled site.1 site.2.1 = false := by
    refine List.any_eq_false.mpr fun entry member => ?_
    obtain ⟨unit, call, answer⟩ := entry
    obtain ⟨account, region, kind, same⟩ := reached.only_lists dry _ member
    simp only at same
    subst same
    simp [Event.isFailedWait]
  rw [skips, settled, Bool.and_false]

theorem Reached.expected_of_dry (unit : WorkUnit) :
    pool.expected request lister unit = unit.foretold request lister unit.kinds := by
  rw [expected, List.filter_eq_self.mpr fun kind _ => by rw [reached.skips_of_dry dry, Bool.not_false]]

theorem Reached.turns_of_dry {delivery : Delivery} (done : delivery ∈ pool.received) :
    ∃ turns, WorkUnit.Turns delivery.unit request delivery.unit.kinds delivery.events
      delivery.result turns ∧ turns.map (·.kind) = delivery.unit.kinds := by
  obtain ⟨-, -, swept⟩ := reached.delivered (List.mem_append_right _ done)
  obtain ⟨turns, all⟩ := swept.turns rfl
  refine ⟨turns, all, all.kinds_eq fun event inside => ?_⟩
  obtain ⟨kind, answer, rfl⟩ := swept.lists_of_dry dry event inside
  rfl

include lists

theorem Reached.asJudged_of_dry :
    (∀ record ∈ (pool.report request).records, record.asJudged request = record) ∧
      ∀ issue ∈ (pool.report request).summary.issues, issue.kind = .listing := by
  have served : Reached .askedKinds request pool := reached.mono lists.askedKinds
  constructor
  · intro record member
    obtain ⟨delivery, done, inside⟩ := mem_report_records.mp member
    obtain ⟨-, allowed, swept⟩ := served.delivered (List.mem_append_right _ done)
    obtain ⟨-, ruled, answered, present, -, untouched⟩ := swept.recorded rfl inside
    have kind := WorkUnit.listsAskedKinds_of_allows allowed _ _ answered _ present
    rw [← kind] at ruled
    rw [untouched dry, WorkUnit.asJudged_recordOf ruled]
  · intro issue member
    obtain ⟨delivery, done, inside⟩ := mem_report_issues.mp member
    obtain ⟨-, allowed, swept⟩ := served.delivered (List.mem_append_right _ done)
    rw [swept.issues_eq allowed] at inside
    obtain ⟨event, asked, raised⟩ := List.mem_filterMap.mp inside
    obtain ⟨kind, answer, rfl⟩ := swept.lists_of_dry dry event asked
    cases answer with
    | ok => cases raised
    | error failure =>
      cases raised
      rfl

theorem Reached.vacant_count (finished : pool.isFinished = true) (p : Site → Bool) :
    pool.events.countP (fun entry => entry.2.isVacant && p entry.2.call.site) =
      (request.units.map fun unit => (unit.foretold request lister (unit.kinds.filter fun kind =>
        p (unit.account, unit.region, kind))).emptyListings).sum := by
  have each : ∀ delivery ∈ pool.received,
      delivery.events.countP (fun event => event.isVacant && p event.call.site) =
        (delivery.unit.foretold request lister (delivery.unit.kinds.filter fun kind =>
          p (delivery.unit.account, delivery.unit.region, kind))).emptyListings := by
    intro delivery done
    obtain ⟨turns, all, kinds⟩ := reached.turns_of_dry dry done
    have allowed := (reached.delivered (List.mem_append_right _ done)).2.1
    rw [all.vacant_count allowed lists p, kinds]
  have perm := (reached.received_units finished).map fun unit =>
    (unit.foretold request lister (unit.kinds.filter fun kind =>
      p (unit.account, unit.region, kind))).emptyListings
  rw [(reached.events_perm finished).countP_eq, List.countP_flatMap, ← perm.sum_nat, List.map_map]
  refine congrArg List.sum (List.map_congr_left fun delivery done => ?_)
  rw [Function.comp_apply, List.countP_map]
  exact each delivery done

theorem Reached.shown_of_dry (distinct : request.units.Nodup) (finished : pool.isFinished = true) :
    (pool.report request).records = (request.units.flatMap fun unit =>
        (unit.foretold request lister unit.kinds).records).mergeSort Record.precedes ∧
      (pool.report request).summary.issues = (request.units.flatMap fun unit =>
        (unit.foretold request lister unit.kinds).issues).mergeSort Issue.precedes := by
  obtain ⟨kept, listings⟩ := reached.asJudged_of_dry lists dry
  have all := funext (reached.expected_of_dry dry)
  constructor
  · have judged := reached.judged_records distinct lists finished
    rw [List.map_congr_left kept, List.map_id', all] at judged
    exact judged
  · have judged := reached.judged_issues distinct lists finished
    rw [List.filter_eq_self.mpr fun issue member => by simp [listings issue member], all] at judged
    exact judged

end Dry

/-- Where a dry run comes to its end, so does every applied run. -/
theorem Reached.isFinished_of_preview (reached : Reached (.listing lister) request pool)
    (draft : Reached (.listing lister) { request with dryRun := true } preview)
    (finished : preview.isFinished = true) (stuck : pool.IsStuck request) :
    pool.isFinished = true := by
  by_contra unfinished
  obtain ⟨unit, planned, kind, turn, policy, listed, ruled, answered, undefined⟩ :=
    reached.undefined_of_unfinished stuck unfinished
  -- The dry run has been through the same listing.
  obtain ⟨delivery, received, rfl⟩ :=
    List.mem_map.mp ((draft.received_units finished).mem_iff.mpr planned)
  obtain ⟨turns, all, kinds⟩ := draft.turns_of_dry rfl received
  rw [← kinds] at turn
  obtain ⟨part, inside, rfl⟩ := List.mem_map.mp turn
  have allowed := (draft.delivered (List.mem_append_right _ received)).2.1
  have defined := (all.swept part inside).defined
    (allowed.mono (all.events_subset inside)) ruled answered.symm
  exact undefined defined

/-- What an applied run has in common with a dry run of its request. -/
structure Foretold (request : Request) (pool preview : Pool) : Prop where
  records : (pool.report request).records.map (·.asJudged request) =
    (preview.report { request with dryRun := true }).records.filter fun record =>
      !pool.skips record.site
  issues : (pool.report request).summary.issues.filter (·.kind = .listing) =
    (preview.report { request with dryRun := true }).summary.issues.filter fun issue =>
      !pool.skips issue.site
  emptyListings : (preview.report { request with dryRun := true }).summary.emptyListings =
    (pool.report request).summary.emptyListings +
      preview.events.countP fun entry => entry.2.isVacant && pool.skips entry.2.call.site

/-- An applied run ends where the dry run of its request does. It lists and judges what the dry run
has shown, in the same order, apart from the volumes of regions where a wait has failed. -/
theorem Reached.foretold (lists : lister.ListsKinds) (accounts : request.accounts.Nodup)
    (regions : request.regions.Nodup) (reached : Reached (.listing lister) request pool)
    (draft : Reached (.listing lister) { request with dryRun := true } preview)
    (finished : preview.isFinished = true) (stuck : pool.IsStuck request) :
    pool.isFinished = true ∧ Foretold request pool preview := by
  have done := reached.isFinished_of_preview draft finished stuck
  have distinct : request.units.Nodup := WorkUnit.plan_nodup accounts regions
  obtain ⟨records, issues⟩ := draft.shown_of_dry lists rfl distinct finished
  refine ⟨done, ?_, ?_, ?_⟩
  · rw [reached.judged_records distinct lists done, records, mergeSort_filter Record.precedes_iff,
      List.filter_flatMap]
    congr 1
    refine List.flatMap_congr fun unit _ => ?_
    exact ((WorkUnit.foretold_filter lists fun site => !pool.skips site).1).symm
  · rw [reached.judged_issues distinct lists done, issues, mergeSort_filter Issue.precedes_iff,
      List.filter_flatMap]
    congr 1
    refine List.flatMap_congr fun unit _ => ?_
    exact ((WorkUnit.foretold_filter lists fun site => !pool.skips site).2).symm
  · have counted : (pool.report request).summary.emptyListings =
        preview.events.countP fun entry => entry.2.isVacant && !pool.skips entry.2.call.site := by
      rw [reached.judged_emptyListings distinct lists done,
        draft.vacant_count lists rfl finished fun site => !pool.skips site]
      rfl
    rw [draft.emptyListings_eq finished, counted,
      List.countP_eq_countP_filter_add _ _ fun entry => pool.skips entry.2.call.site,
      List.countP_filter, List.countP_filter, Nat.add_comm]

/-- The volume of one region is left out of what the dry run has shown, that of the other is not. -/
theorem foretold_regions :
    let answer := Capture.ofDisks.lister.halting (.waitTimeout ["i-1"] ⟨300000000000⟩)
    let drafted := { Request.forDisks with dryRun := true }
    ∃ pool preview,
      Reached (.listing Capture.ofDisks.lister) .forDisks pool ∧
      Reached (.listing Capture.ofDisks.lister) drafted preview ∧
      (start .forDisks).play .forDisks (Move.forDisks answer) = some pool ∧
      preview.isFinished = true ∧ pool.IsStuck .forDisks ∧
      pool.skips (.main, "us-east-1", .volume) = true ∧
      pool.skips (.main, "us-west-2", .volume) = false ∧
      Foretold .forDisks pool preview := by
  intro answer drafted
  have run : ((start .forDisks).play .forDisks (Move.forDisks answer)).map (fun pool =>
      (pool.isFinished, pool.skips (.main, "us-east-1", .volume),
        pool.skips (.main, "us-west-2", .volume))) = some (true, true, false) := by
    decide +kernel
  have trial : ((start drafted).play drafted ([.take 0, .take 1, .ask 1 answer, .ask 0 answer,
      .ask 0 answer, .ask 1 answer, .send 0, .send 1, .receive, .receive])).map (·.isFinished) =
      some true := by
    decide +kernel
  obtain ⟨pool, played, found⟩ := Option.map_eq_some_iff.mp run
  obtain ⟨preview, played', finished'⟩ := Option.map_eq_some_iff.mp trial
  simp only [Prod.mk.injEq] at found
  obtain ⟨finished, skipped, kept⟩ := found
  have possible := Capture.ofDisks.lister.halting_possible (.waitTimeout ["i-1"] ⟨300000000000⟩)
  have reached : Reached (.listing Capture.ofDisks.lister) .forDisks pool :=
    reached_of_play .start (Move.forDisks_fits possible) played
  have draft : Reached (.listing Capture.ofDisks.lister) drafted preview :=
    reached_of_play .start (by simp [Move.Fits, answer, possible]) played'
  have stuck : pool.IsStuck .forDisks := isStuck_of_isFinished finished
  have foretold := reached.foretold Capture.lister_listsKinds (by decide) (by decide) draft
    finished' stuck
  exact ⟨pool, preview, reached, draft, played, finished', stuck, skipped, kept, foretold.2⟩

end Pool
end Retention
