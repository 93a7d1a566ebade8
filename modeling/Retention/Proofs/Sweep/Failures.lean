import Retention.Proofs.Sweep.Audit

/-!
What counts against an applied run. Each error of an execution or of a wait does, unless the execution
was a trial. A wait that is answered as a trial counts as well; where there is none of these, a run has
no issue but those of listings and no unit stops early.
-/
namespace Retention
namespace Event

/-- The executor has answered with an error that is no trial. -/
def isFailure : Event → Bool
  | ⟨.execute .., .error failure⟩ => !failure.isBenign
  | ⟨.wait .., .error failure⟩ => !failure.isBenign
  | _ => false

/-- A wait that was answered as a trial. -/
def isTrialWait : Event → Bool
  | ⟨.wait .., .error failure⟩ => failure.isBenign
  | _ => false

theorem isFailedWait_imp {event : Event} (failed : event.isFailedWait = true) :
    event.isFailure = true ∨ event.isTrialWait = true := by
  obtain ⟨call, answer⟩ := event
  cases call with
  | list | execute => cases failed
  | wait =>
    cases answer with
    | ok => cases failed
    | error failure => cases benign : failure.isBenign <;> simp [isFailure, isTrialWait, benign]

/-- Each failure raises one issue, and so does each trial of a wait. -/
theorem countP_issues (events : List Event) :
    (events.filterMap Event.issue?).countP (·.kind != .listing) =
      events.countP (·.isFailure) + events.countP (·.isTrialWait) := by
  have each (event : Event) : [event].countP (fun event =>
      (event.issue?.map fun issue => issue.kind != .listing).getD false) =
        [event].countP (·.isFailure) + [event].countP (·.isTrialWait) := by
    obtain ⟨call, answer⟩ := event
    cases call with
    | list => cases answer <;> rfl
    | execute =>
      cases answer with
      | ok => rfl
      | error failure => cases failure <;> rfl
    | wait =>
      cases answer with
      | ok => rfl
      | error failure => cases failure <;> rfl
  rw [List.countP_filterMap]
  induction events with
  | nil => rfl
  | cons event events ih =>
    have first := each event
    rw [← List.singleton_append, List.countP_append, List.countP_append, List.countP_append, ih]
    omega

end Event

theorem Report.executionErrorCount_eq (report : Report) :
    report.executionErrorCount = report.summary.issues.countP (·.kind != .listing) :=
  List.countP_eq_length_filter.symm

theorem Report.executionErrorCount_assemble (request : Request) (results : List UnitResult) :
    (assemble request results).executionErrorCount =
      ((results.flatMap (·.issues)).map Issue.gist).countP (·.1 != .listing) := by
  rw [executionErrorCount_eq, issues_assemble, (List.mergeSort_perm _ _).countP_eq, List.countP_map]
  rfl

theorem WorkUnit.SweptKind.listing_mem {unit : WorkUnit} {request : Request} {kind : Kind}
    {events : List Event} {outcome : Option (UnitResult × Bool)}
    (swept : SweptKind unit request kind events outcome)
    (ruled : (request.policies kind).isSome = true) :
    ∃ answer, unit.listing kind answer ∈ events := by
  cases swept with
  | unruled unruled => simp [unruled] at ruled
  | refused | undefined | vacant | judged => exact ⟨_, List.mem_cons_self⟩

namespace Pool

variable {behaviour : Behaviour} {request : Request} {pool : Pool}

theorem Reached.executionErrorCount_eq (reached : Reached behaviour request pool)
    (finished : pool.isFinished = true) :
    (pool.report request).executionErrorCount =
      pool.events.countP (·.2.isFailure) + pool.events.countP (·.2.isTrialWait) := by
  have issues := (reached.gists_perm finished).countP_eq (·.1 != .listing)
  have counted := Event.countP_issues (pool.events.map (·.2))
  rw [List.countP_map, List.countP_map] at issues counted
  rw [Report.executionErrorCount_eq]
  exact issues.trans counted

theorem Reached.listed_of_quiet (reached : Reached behaviour request pool)
    (finished : pool.isFinished = true)
    (quiet : ∀ entry ∈ pool.events, entry.2.isFailedWait = false) {unit : WorkUnit}
    (planned : unit ∈ request.units) {kind : Kind} (turn : kind ∈ unit.kinds)
    (ruled : (request.policies kind).isSome = true) :
    ∃ answer, (unit, unit.listing kind answer) ∈ pool.events := by
  have received := (reached.received_units finished).mem_iff.mpr planned
  obtain ⟨delivery, done, rfl⟩ := List.mem_map.mp received
  obtain ⟨-, -, swept⟩ := reached.delivered (List.mem_append_right _ done)
  obtain ⟨turns, all⟩ := swept.turns rfl
  have kinds := all.kinds_eq fun event inside => quiet _ (reached.asked done inside)
  rw [← kinds] at turn
  obtain ⟨part, inside, rfl⟩ := List.mem_map.mp turn
  obtain ⟨answer, asked⟩ := (all.swept part inside).listing_mem ruled
  exact ⟨answer, reached.asked done (all.events_subset inside asked)⟩

/-- How the errors of a report come about. A trial counts where it answers a wait, and only there. -/
structure Charged (request : Request) (pool : Pool) : Prop where
  count : (pool.report request).executionErrorCount =
    pool.events.countP (·.2.isFailure) + pool.events.countP (·.2.isTrialWait)
  spared : (∀ entry ∈ pool.events, entry.2.isFailure = false) →
    (∀ entry ∈ pool.events, entry.2.isTrialWait = false) →
      (∀ issue ∈ (pool.report request).summary.issues, issue.kind = .listing) ∧
      ∀ unit ∈ request.units, ∀ kind ∈ unit.kinds, (request.policies kind).isSome = true →
        ∃ answer, (unit, unit.listing kind answer) ∈ pool.events

theorem Reached.charged_of_isFinished (reached : Reached behaviour request pool)
    (finished : pool.isFinished = true) : Charged request pool := by
  have count := reached.executionErrorCount_eq finished
  refine ⟨count, fun kept kept' => ⟨?_, ?_⟩⟩
  · have none : pool.events.countP (·.2.isFailure) + pool.events.countP (·.2.isTrialWait) = 0 := by
      rw [List.countP_eq_zero.mpr (by simpa using kept), List.countP_eq_zero.mpr (by simpa using kept')]
    rw [none, Report.executionErrorCount_eq, List.countP_eq_zero] at count
    intro issue member
    simpa using count issue member
  · intro unit planned kind turn ruled
    refine reached.listed_of_quiet finished (fun entry member => ?_) planned turn ruled
    rw [← Bool.not_eq_true]
    intro failed
    rcases Event.isFailedWait_imp failed with failure | trial
    · rw [kept entry member] at failure
      cases failure
    · rw [kept' entry member] at trial
      cases trial

end Pool
end Retention
