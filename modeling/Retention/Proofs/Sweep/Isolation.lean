import Retention.Proofs.Sweep.Coverage
import Retention.Proofs.Sweep.Schedule

/-!
Units keep to themselves. A unit whose calls are answered alike in two runs comes to the same result in
both, and what a unit comes to stands in the report under its own sites. So a report changes under the
sites of those units that are answered otherwise, and nowhere else.
-/
namespace Retention

theorem filter_sort_congr {α ι κ : Type} [LinearOrder κ] {key : α → κ} {le : α → α → Bool}
    (reads : ∀ a b, le a b = true ↔ key a ≤ key b) (kept : α → Bool) {parts : List ι}
    {entries others : ι → List α}
    (same : ∀ part ∈ parts, (entries part).filter kept = (others part).filter kept) :
    ((parts.flatMap entries).mergeSort le).filter kept =
      ((parts.flatMap others).mergeSort le).filter kept := by
  rw [mergeSort_filter reads, mergeSort_filter reads, List.filter_flatMap, List.filter_flatMap,
    List.flatMap_congr same]

namespace WorkUnit

variable {answer : (call : Call) → call.Answer} {request : Request} {unit : WorkUnit}

theorem site_record (lists : ListsKinds answer) {record : Record}
    (member : record ∈ (unit.worth answer request).records) : record.site ∈ unit.sites := by
  obtain ⟨account, region, turn⟩ := record_place lists member
  rw [mem_sites_iff, Record.site, account, region]
  exact ⟨record.kind, turn, rfl⟩

theorem site_issue {issue : Issue} (member : issue ∈ (unit.worth answer request).issues) :
    issue.site ∈ unit.sites := by
  obtain ⟨account, region, turn⟩ := issue_place member
  rw [mem_sites_iff, Issue.site, account, region]
  exact ⟨issue.resourceKind, turn, rfl⟩

theorem mem_sites_unique {other : WorkUnit} (planned : unit ∈ request.units)
    (planned' : other ∈ request.units) {site : Site} (own : site ∈ unit.sites) :
    site ∈ other.sites ↔ unit = other := by
  constructor
  · intro shared
    exact eq_of_site planned planned' (mem_sites_iff.mp own) (mem_sites_iff.mp shared)
  · rintro rfl
    exact own

end WorkUnit

namespace Pool

/-- Apart from the units that are disturbed, each call gets the answer that was given in the run. -/
def AnsweredAlike (answer : (call : Call) → call.Answer) (disturbed : WorkUnit → Prop)
    (pool : Pool) : Prop :=
  ∀ unit event, (unit, event) ∈ pool.events → ¬ disturbed unit → answer event.call = event.answer

/-- The sites of the units that are disturbed, told from those of the other planned units. -/
def Marks (request : Request) (disturbed : WorkUnit → Prop) (touched : Site → Bool) : Prop :=
  ∀ unit ∈ request.units, ∀ site ∈ unit.sites, touched site = true ↔ disturbed unit

theorem marks_unit {request : Request} {unit : WorkUnit} (planned : unit ∈ request.units) :
    Marks request (· = unit) (· ∈ unit.sites) := by
  intro other planned' site own
  rw [decide_eq_true_iff]
  exact WorkUnit.mem_sites_unique planned' planned own

theorem marks_account (request : Request) (account : Account) :
    Marks request (·.account = account) (·.1 = account) := by
  intro unit _ site own
  obtain ⟨kind, -, rfl⟩ := WorkUnit.mem_sites_iff.mp own
  rw [decide_eq_true_iff]

/-- Of a disturbed unit nothing is kept, and any other unit has the same entries. -/
theorem Marks.filter_congr {request : Request} {disturbed : WorkUnit → Prop} {touched : Site → Bool}
    (marks : Marks request disturbed touched) {α : Type} {place : α → Site}
    {entries others : WorkUnit → List α} (own : ∀ unit, ∀ a ∈ entries unit, place a ∈ unit.sites)
    (own' : ∀ unit, ∀ a ∈ others unit, place a ∈ unit.sites)
    (calm : ∀ unit ∈ request.units, ¬ disturbed unit → entries unit = others unit) :
    ∀ unit ∈ request.units, (entries unit).filter (fun a => !touched (place a)) =
      (others unit).filter fun a => !touched (place a) := by
  intro unit planned
  by_cases hit : disturbed unit
  · have none {a : α} (inside : place a ∈ unit.sites) : ¬ (!touched (place a)) = true := by
      simp [(marks unit planned _ inside).mpr hit]
    rw [List.filter_eq_nil_iff.mpr fun a member => none (own unit a member),
      List.filter_eq_nil_iff.mpr fun a member => none (own' unit a member)]
  · rw [calm unit planned hit]

/-- How a run compares with a finished run in which some units were answered otherwise. It has a report
too, unless one of these units lists a resource whose age is undefined; and the reports differ in nothing
but what belongs to these units. -/
structure Isolated (answer : (call : Call) → call.Answer) (request : Request) (pool rival : Pool)
    (disturbed : WorkUnit → Prop) (touched : Site → Bool) : Prop where
  ends : rival.IsStuck request → rival.isFinished = true ∨
    ∃ unit ∈ request.units, disturbed unit ∧ ∃ kind ∈ unit.kinds, ∃ policy listed,
      request.policies kind = some policy ∧
      answer (.list unit.account unit.region kind) = .ok listed ∧
      ¬ unit.Defined policy request.now listed
  records : rival.isFinished = true →
    (pool.report request).records.filter (!touched ·.site) =
      (rival.report request).records.filter (!touched ·.site)
  issues : rival.isFinished = true →
    (pool.report request).summary.issues.filter (!touched ·.site) =
      (rival.report request).summary.issues.filter (!touched ·.site)
  owned : ∀ delivery ∈ pool.received ++ rival.received,
    (∀ record ∈ delivery.result.records, touched record.site = true ↔ disturbed delivery.unit) ∧
      ∀ issue ∈ delivery.result.issues, touched issue.site = true ↔ disturbed delivery.unit

theorem Reached.site_own {request : Request} {pool : Pool}
    (reached : Reached .askedKinds request pool) {unit : WorkUnit} {event : Event}
    (member : (unit, event) ∈ pool.events) :
    unit ∈ request.units ∧ event.call.site ∈ unit.sites := by
  obtain ⟨planned, dialogue, outcome, inside, allowed, swept⟩ :=
    reached.asked_in_dialogue Behaviour.askedKinds_responds member
  exact ⟨planned, WorkUnit.mem_sites_iff.mpr (swept.site allowed event inside)⟩

section Fixed

variable {answer : (call : Call) → call.Answer} {request : Request} {pool : Pool}
  (reached : Reached (.fixed answer) request pool)
include reached

theorem Reached.to_askedKinds (lists : ListsKinds answer) : Reached .askedKinds request pool := by
  refine reached.mono fun call given same => ?_
  cases call with
  | list account region kind =>
    intro listed answered
    exact lists account region kind listed (same.symm.trans answered)
  | execute | wait => trivial

theorem Reached.answeredAlike (lists : ListsKinds answer) {second : (call : Call) → call.Answer}
    {disturbed : WorkUnit → Prop} {touched : Site → Bool} (marks : Marks request disturbed touched)
    (same : ∀ call : Call, touched call.site = false → second call = answer call) :
    pool.AnsweredAlike second disturbed := by
  intro unit event member calm
  have given := reached.allows event (List.mem_map_of_mem (f := (·.2)) member)
  obtain ⟨planned, place⟩ := (reached.to_askedKinds lists).site_own member
  have untouched : touched event.call.site = false := by
    rw [← Bool.not_eq_true, marks unit planned _ place]
    exact calm
  exact (same event.call untouched).trans given.symm

theorem Reached.report_eq (lists : ListsKinds answer) (finished : pool.isFinished = true) :
    pool.report request = .assemble request (request.units.map (·.worth answer request)) := by
  have settled := reached.outcome_eq_settled lists (isStuck_of_isFinished finished)
  rw [outcome, if_pos finished, Request.settled,
    if_pos (reached.resultOf_of_isFinished finished)] at settled
  exact Except.ok.inj settled

theorem Reached.result_eq {delivery : Delivery} (done : delivery ∈ pool.received) :
    delivery.result = delivery.unit.worth answer request :=
  (WorkUnit.worth_of_resultOf
    (reached.resultOf_delivered (List.mem_append_right _ done))).symm

theorem Reached.marked (lists : ListsKinds answer) {disturbed : WorkUnit → Prop}
    {touched : Site → Bool} (marks : Marks request disturbed touched) {delivery : Delivery}
    (done : delivery ∈ pool.received) :
    (∀ record ∈ delivery.result.records, touched record.site = true ↔ disturbed delivery.unit) ∧
      ∀ issue ∈ delivery.result.issues, touched issue.site = true ↔ disturbed delivery.unit := by
  obtain ⟨planned, -, -⟩ := reached.delivered (List.mem_append_right _ done)
  rw [reached.result_eq done]
  constructor
  · exact fun record member => marks _ planned _ (WorkUnit.site_record lists member)
  · exact fun issue member => marks _ planned _ (WorkUnit.site_issue member)

/-- A unit whose calls are answered as they have been comes to what it has come to. -/
theorem Reached.resultOf_eq {second : (call : Call) → call.Answer} {disturbed : WorkUnit → Prop}
    (finished : pool.isFinished = true) (alike : pool.AnsweredAlike second disturbed)
    {unit : WorkUnit} (planned : unit ∈ request.units) (calm : ¬ disturbed unit) :
    unit.resultOf second request = unit.resultOf answer request := by
  obtain ⟨delivery, done, rfl⟩ :=
    List.mem_map.mp ((reached.received_units finished).mem_iff.mpr planned)
  obtain ⟨-, -, swept⟩ := reached.delivered (List.mem_append_right _ done)
  rw [reached.resultOf_delivered (List.mem_append_right _ done)]
  -- The dialogue that the unit has been through is also one with the other answers.
  refine WorkUnit.resultOf_eq_iff.mpr ⟨delivery.events, fun event asked => ?_, swept⟩
  exact (alike delivery.unit event (reached.asked done asked) calm).symm

end Fixed

variable {first second : (call : Call) → call.Answer} {request : Request} {pool rival : Pool}

/-- If a run with other answers is kept from its end, then by a unit that is disturbed. -/
theorem Reached.finished_or_disturbed (reached : Reached (.fixed first) request pool)
    (reached' : Reached (.fixed second) request rival) (finished : pool.isFinished = true)
    {disturbed : WorkUnit → Prop} (alike : pool.AnsweredAlike second disturbed)
    (stuck : rival.IsStuck request) : rival.isFinished = true ∨
      ∃ unit ∈ request.units, disturbed unit ∧ ∃ kind ∈ unit.kinds, ∃ policy listed,
        request.policies kind = some policy ∧
        second (.list unit.account unit.region kind) = .ok listed ∧
        ¬ unit.Defined policy request.now listed := by
  refine (reached'.finished_or_aborted stuck).imp_right fun broken => ?_
  obtain ⟨unit, events, aborted⟩ := broken
  obtain ⟨planned, none⟩ := reached'.resultOf_aborted aborted
  obtain ⟨dialogue, allowed, swept⟩ := WorkUnit.resultOf_eq_iff.mp none
  obtain ⟨kind, turn, policy, listed, ruled, asked, undefined⟩ := swept.undefined rfl
  refine ⟨unit, planned, ?_, kind, turn, policy, listed, ruled, (allowed _ asked).symm, undefined⟩
  by_contra spared
  have some := reached.resultOf_of_isFinished finished unit planned
  rw [← reached.resultOf_eq finished alike planned spared, none] at some
  cases some

theorem Reached.isolated_of_marks (lists : ListsKinds first) (lists' : ListsKinds second)
    (reached : Reached (.fixed first) request pool)
    (reached' : Reached (.fixed second) request rival) (finished : pool.isFinished = true)
    {disturbed : WorkUnit → Prop} {touched : Site → Bool} (marks : Marks request disturbed touched)
    (alike : pool.AnsweredAlike second disturbed) :
    Isolated second request pool rival disturbed touched := by
  have calm (unit : WorkUnit) (planned : unit ∈ request.units) (spared : ¬ disturbed unit) :
      unit.worth first request = unit.worth second request := by
    rw [WorkUnit.worth, WorkUnit.worth, reached.resultOf_eq finished alike planned spared]
  constructor
  · exact reached.finished_or_disturbed reached' finished alike
  · intro done
    rw [reached.report_eq lists finished, reached'.report_eq lists' done, Report.records_assemble,
      Report.records_assemble, List.flatMap_map, List.flatMap_map]
    refine filter_sort_congr Record.precedes_iff _ (marks.filter_congr ?_ ?_ ?_)
    · exact fun unit record => WorkUnit.site_record lists
    · exact fun unit record => WorkUnit.site_record lists'
    · exact fun unit planned spared => by rw [calm unit planned spared]
  · intro done
    rw [reached.report_eq lists finished, reached'.report_eq lists' done, Report.issues_assemble,
      Report.issues_assemble, List.flatMap_map, List.flatMap_map]
    refine filter_sort_congr Issue.precedes_iff _ (marks.filter_congr ?_ ?_ ?_)
    · exact fun unit issue => WorkUnit.site_issue
    · exact fun unit issue => WorkUnit.site_issue
    · exact fun unit planned spared => by rw [calm unit planned spared]
  · intro delivery done
    rcases List.mem_append.mp done with here | there
    · exact reached.marked lists marks here
    · exact reached'.marked lists' marks there

/-- Whatever is answered for one unit, the reports agree on everything that does not belong to it;
whatever is answered for one account, they agree on everything of the other. -/
theorem Reached.isolated (lists : ListsKinds first) (lists' : ListsKinds second)
    (reached : Reached (.fixed first) request pool)
    (reached' : Reached (.fixed second) request rival) (finished : pool.isFinished = true) :
    (∀ unit ∈ request.units, pool.AnsweredAlike second (· = unit) →
      Isolated second request pool rival (· = unit) (· ∈ unit.sites)) ∧
    ∀ account, pool.AnsweredAlike second (·.account = account) →
      Isolated second request pool rival (·.account = account) (·.1 = account) := by
  constructor
  · exact fun unit planned alike =>
      reached.isolated_of_marks lists lists' reached' finished (marks_unit planned) alike
  · exact fun account alike =>
      reached.isolated_of_marks lists lists' reached' finished (marks_account request account) alike

end Pool

/-- Both accounts have an instance and a volume, under the same ids. -/
def Capture.ofAccounts : Capture := Capture.ofBoth
  { regions := Dictionary.empty.insert "us-east-1" ⟨[⟨[.untagged]⟩], [.untagged], [], [], [], [], []⟩
    buckets := []
    resourceGroups := [] }

def Request.forAccounts : Request :=
  ⟨[.main, .second], ["us-east-1"], [.vmInstance, .volume], fun _ => some .tagOnly, false, 2, .noon⟩

/-- The second account cannot be listed, and whatever is carried out or awaited there runs out of
time. -/
def Lister.crippled (lister : Lister) : (call : Call) → call.Answer
  | .list account region kind =>
    if account = .second then .error (.failed kind region "throttled")
    else lister account region kind
  | .execute operation snapshot =>
    if snapshot.account = .second then .error (.timeout operation snapshot.id ⟨0⟩) else .ok ⟨0⟩
  | .wait account _ ids => if account = .second then .error (.waitTimeout ids ⟨0⟩) else .ok ()

namespace Lister

variable {lister : Lister}

theorem listsKinds_answering (lists : lister.ListsKinds) (outcome : Except ExecutionError Outcome) :
    Retention.ListsKinds (lister.answering outcome) := lists

theorem listsKinds_crippled (lists : lister.ListsKinds) : Retention.ListsKinds lister.crippled := by
  intro account region kind listed answered
  simp only [crippled] at answered
  split at answered
  · cases answered
  · exact lists account region kind listed answered

theorem crippled_eq {call : Call} (spared : call.site.1 ≠ .second) :
    lister.crippled call = lister.answering (.ok ⟨0⟩) call := by
  cases call <;> exact if_neg spared

end Lister

namespace Pool

/-- In one run all is carried out, in the other the second account cannot even be listed. -/
theorem isolated_accounts :
    let first := Capture.ofAccounts.lister.answering (.ok ⟨0⟩)
    let second := Capture.ofAccounts.lister.crippled
    let unit : WorkUnit := ⟨.second, "us-east-1", [.vmInstance, .volume]⟩
    ∃ pool rival, Reached (.fixed first) .forAccounts pool ∧
      Reached (.fixed second) .forAccounts rival ∧ ListsKinds first ∧ ListsKinds second ∧
      pool.isFinished = true ∧ rival.isFinished = true ∧ unit ∈ Request.forAccounts.units ∧
      pool.AnsweredAlike second (· = unit) ∧
      pool.AnsweredAlike second (·.account = .second) ∧
      (pool.report .forAccounts).records.length = 4 ∧
      (rival.report .forAccounts).records.length = 2 ∧
      Isolated second .forAccounts pool rival (· = unit) (· ∈ unit.sites) ∧
      Isolated second .forAccounts pool rival (·.account = .second) (·.1 = .second) := by
  intro first second unit
  have lists : ListsKinds first := Lister.listsKinds_answering Capture.lister_listsKinds _
  have lists' : ListsKinds second := Lister.listsKinds_crippled Capture.lister_listsKinds
  have run : ((start .forAccounts).play .forAccounts
      ([.take 0, .take 1] ++ List.replicate 5 (.ask 0 first) ++ List.replicate 5 (.ask 1 first) ++
        [.send 1, .send 0, .receive, .receive])).map (fun pool =>
          (pool.isFinished, (pool.received.flatMap (·.result.records)).length)) = some (true, 4) := by
    decide +kernel
  have run' : ((start .forAccounts).play .forAccounts
      ([.take 0, .take 1] ++ List.replicate 5 (.ask 0 second) ++ List.replicate 2 (.ask 1 second) ++
        [.send 0, .send 1, .receive, .receive])).map (fun pool =>
          (pool.isFinished, (pool.received.flatMap (·.result.records)).length)) = some (true, 2) := by
    decide +kernel
  obtain ⟨pool, played, found⟩ := Option.map_eq_some_iff.mp run
  obtain ⟨rival, played', found'⟩ := Option.map_eq_some_iff.mp run'
  obtain ⟨finished, many⟩ := Prod.mk.inj found
  obtain ⟨finished', few⟩ := Prod.mk.inj found'
  have reached : Reached (.fixed first) .forAccounts pool :=
    reached_of_play .start (by simp [Move.Fits, Behaviour.fixed]) played
  have reached' : Reached (.fixed second) .forAccounts rival :=
    reached_of_play .start (by simp [Move.Fits, Behaviour.fixed]) played'
  have planned : unit ∈ Request.forAccounts.units := by decide
  have alike : pool.AnsweredAlike second (·.account = .second) := by
    refine reached.answeredAlike lists (marks_account _ .second) fun call spared => ?_
    exact Lister.crippled_eq (by simpa using spared)
  have alike' : pool.AnsweredAlike second (· = unit) := by
    intro other event member calm
    refine alike other event member fun own => calm ?_
    obtain ⟨inside, -⟩ := (reached.to_askedKinds lists).site_own member
    have alone : ∀ other ∈ Request.forAccounts.units, other.account = .second → other = unit := by
      decide
    exact alone other inside own
  obtain ⟨unitwise, accountwise⟩ := reached.isolated lists lists' reached' finished
  exact ⟨pool, rival, reached, reached', lists, lists', finished, finished', planned, alike', alike,
    report_records_perm.length_eq.trans many, report_records_perm.length_eq.trans few, unitwise unit planned alike', accountwise .second alike⟩

end Pool
end Retention
