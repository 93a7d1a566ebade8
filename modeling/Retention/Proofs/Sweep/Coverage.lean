import Mathlib.Algebra.BigOperators.Group.List.Lemmas
import Mathlib.Data.List.Dedup
import Retention.Proofs.Sweep.Forecast
import Retention.Proofs.Tags

/-!
Nothing is lost and nothing is made up. The sites of a request are the listings that it asks for, counted
with the repeats among its accounts and regions. A dry run lists each site as often as it is asked for,
and the report holds what each of these listings came back with, once.
-/
namespace Retention
namespace Dictionary

variable {α : Type}

theorem mem_keys_iff {dictionary : Dictionary α} {key : String} :
    key ∈ dictionary.keys ↔ (dictionary.get? key).isSome = true := by
  constructor
  · intro member
    obtain ⟨entry, inside, rfl⟩ := List.mem_map.mp member
    rw [get?_of_mem inside]
    rfl
  · intro found
    obtain ⟨value, found⟩ := Option.isSome_iff_exists.mp found
    exact List.mem_map_of_mem (f := (·.1)) (mem_of_get? found)

theorem keys_nodup (dictionary : Dictionary α) : dictionary.keys.Nodup := by
  refine List.pairwise_map.mpr (dictionary.ascending.imp ?_)
  intro first second below same
  rw [same] at below
  exact String.lt_irrefl _ below

theorem tally_concat (texts : List String) (text : String) :
    tally (texts ++ [text]) =
      (tally texts).insert text (((tally texts).get? text).getD 0 + 1) := by
  simp [tally, List.foldl_append]

theorem get?_tally (texts : List String) (text : String) :
    (tally texts).get? text = if texts.count text = 0 then none else some (texts.count text) := by
  induction texts using List.reverseRecOn with
  | nil => simp [tally, empty, get?]
  | append_singleton texts last ih =>
    rw [tally_concat, get?_insert]
    by_cases same : text = last
    · subst same
      rw [if_pos rfl, ih]
      by_cases fresh : texts.count text = 0 <;> simp [fresh]
    · have other : [last].count text = 0 := by simp [Ne.symm same]
      rw [if_neg same, ih, List.count_append, other, Nat.add_zero]

theorem sum_tally (texts : List String) :
    ((tally texts).entries.map (·.2)).sum = texts.length := by
  have counts : (tally texts).entries.map (·.2) =
      (tally texts).keys.map fun text => texts.count text := by
    rw [keys, List.map_map]
    refine List.map_congr_left fun entry member => ?_
    have found : (tally texts).get? entry.1 = some entry.2 := get?_of_mem member
    rw [get?_tally] at found
    split at found
    · cases found
    · exact (Option.some.inj found).symm
  have keys_perm : (tally texts).keys.Perm texts.dedup := by
    refine (List.perm_ext_iff_of_nodup (keys_nodup _) texts.nodup_dedup).mpr fun text => ?_
    rw [mem_keys_iff, get?_tally, List.mem_dedup, ← List.count_pos_iff]
    by_cases none : texts.count text = 0
    · simp [none]
    · simp [none, Nat.pos_of_ne_zero none]
  rw [counts, (keys_perm.map _).sum_nat, List.sum_map_count_dedup_eq_length]

end Dictionary

theorem Operation.name_inj {a b : Operation} : a.name = b.name ↔ a = b := by
  cases a <;> cases b <;> simp [name]

namespace Report

/-- The operations of a summary count the records, and nothing else. -/
structure Tallied (report : Report) : Prop where
  counted : ∀ operation : Operation,
    let count := report.records.countP (·.verdict.operation = operation)
    report.summary.operations.get? operation.name = if count = 0 then none else some count
  named : ∀ name ∈ report.summary.operations.keys,
    ∃ record ∈ report.records, name = record.verdict.operation.name
  total : (report.summary.operations.entries.map (·.2)).sum = report.records.length

theorem tallied_assemble (request : Request) (results : List UnitResult) :
    (assemble request results).Tallied := by
  constructor
  · intro operation
    have count : ((assemble request results).records.map (·.verdict.operation.name)).count
        operation.name =
          (assemble request results).records.countP (·.verdict.operation = operation) := by
      rw [List.count_eq_countP, List.countP_map]
      refine List.countP_congr fun record _ => ?_
      simp [Operation.name_inj]
    rw [operations_assemble, Dictionary.get?_tally, count]
  · intro name member
    rw [operations_assemble, Dictionary.mem_keys_iff, Dictionary.get?_tally] at member
    split at member
    · cases member
    · rename_i present
      obtain ⟨record, inside, same⟩ :=
        List.mem_map.mp (List.count_pos_iff.mp (Nat.pos_of_ne_zero present))
      exact ⟨record, inside, same.symm⟩
  · rw [operations_assemble, Dictionary.sum_tally, List.length_map]

end Report

/-- The kinds of a scope that are asked for, whatever their order in the request. -/
def Request.enabled (request : Request) (scope : Scope) : List Kind :=
  Kind.all.filter fun kind => kind.scope = scope && request.kinds.contains kind

/-- The listings that a request asks for: regional kinds in each region of each account, and global
kinds once for each account. -/
def Request.sites (request : Request) : List Site :=
  request.accounts.flatMap fun account =>
    (request.regions.flatMap fun region =>
      (request.enabled .regional).map fun kind => (account, region, kind)) ++
    (request.enabled .global).map fun kind => (account, WorkUnit.globalRegion, kind)

def WorkUnit.sites (unit : WorkUnit) : List Site :=
  unit.kinds.map fun kind => (unit.account, unit.region, kind)

namespace WorkUnit

theorem mem_sites_iff {unit : WorkUnit} {site : Site} :
    site ∈ unit.sites ↔ ∃ kind ∈ unit.kinds, site = (unit.account, unit.region, kind) := by
  simp [sites, eq_comm]

theorem sites_alone (account : Account) (region : String) (kinds : List Kind) :
    (kinds.map fun kind => (⟨account, region, [kind]⟩ : WorkUnit)).flatMap sites =
      kinds.map fun kind => (account, region, kind) := by
  rw [List.flatMap_map, List.map_eq_flatMap]
  rfl

private theorem fused_append_alone (wanted : Kind → Bool) :
    fused.filter wanted ++ Kind.all.filter (fun kind =>
        kind.scope = .regional && !fused.contains kind && wanted kind) =
      Kind.all.filter fun kind => kind.scope = .regional && wanted kind := by
  cases machines : wanted .vmInstance <;> cases disks : wanted .volume <;>
    simp [fused, Kind.all, Kind.scope, List.filter_cons, machines, disks]

theorem sites_ofRegion (account : Account) (kinds : List Kind) (region : String) :
    (ofRegion account kinds region).flatMap sites =
      (Kind.all.filter fun kind => kind.scope = .regional && kinds.contains kind).map
        fun kind => (account, region, kind) := by
  have together : (if (fused.filter (kinds.contains ·)).isEmpty then []
      else [(⟨account, region, fused.filter (kinds.contains ·)⟩ : WorkUnit)]).flatMap sites =
      (fused.filter (kinds.contains ·)).map fun kind => (account, region, kind) := by
    split
    · rename_i none
      rw [List.isEmpty_iff.mp none]
      rfl
    · exact List.flatMap_singleton _ _
  rw [ofRegion, List.flatMap_append, together, sites_alone, ← List.map_append, fused_append_alone]

/-- What a plan covers, account by account: the regional kinds in each region, and then the global ones. -/
theorem sites_plan (accounts : List Account) (regions : List String) (kinds : List Kind) :
    (plan accounts regions kinds).flatMap sites = accounts.flatMap fun account =>
      (regions.flatMap fun region =>
        (Kind.all.filter fun kind => kind.scope = .regional && kinds.contains kind).map
          fun kind => (account, region, kind)) ++
      (Kind.all.filter fun kind => kind.scope = .global && kinds.contains kind).map
        fun kind => (account, globalRegion, kind) := by
  unfold plan
  rw [List.flatMap_assoc]
  refine List.flatMap_congr fun account _ => ?_
  rw [ofAccount, List.flatMap_append, List.flatMap_assoc, sites_alone]
  refine congrArg (· ++ _) (List.flatMap_congr fun region _ => ?_)
  exact sites_ofRegion account kinds region

end WorkUnit

/-- The planned units together cover the sites of the request, each as often as it is asked for. -/
theorem Request.units_sites (request : Request) :
    request.units.flatMap WorkUnit.sites = request.sites :=
  WorkUnit.sites_plan request.accounts request.regions request.kinds

namespace Lister

def served (lister : Lister) (site : Site) : Except ListingError (List Listed) :=
  lister site.1 site.2.1 site.2.2

def event (lister : Lister) (site : Site) : Event :=
  ⟨.list site.1 site.2.1 site.2.2, lister.served site⟩

/-- The issue of a site that cannot be listed. -/
def refusal? (lister : Lister) (site : Site) : Option Issue :=
  match lister.served site with
  | .error failure => some ⟨.listing, site.1, site.2.1, site.2.2, [], failure.message⟩
  | .ok _ => none

/-- The site is listed without a resource. -/
def isVacant (lister : Lister) (site : Site) : Bool :=
  match lister.served site with
  | .ok [] => true
  | .ok (_ :: _) | .error _ => false

end Lister

/-- The records of what is listed at a site, in the order of the listing. -/
def Request.judgedAt (request : Request) (lister : Lister) (site : Site) : List Record :=
  match request.policies site.2.2, lister.served site with
  | some policy, .ok listed => listed.map fun one =>
    let snapshot := Snapshot.ofListed one site.1 site.2.1
    ⟨snapshot, Rules.decide snapshot policy request.now, 0⟩
  | some _, .error _ | none, _ => []

/-- A listing has records, or it counts as empty, or it has an issue, and never two of these. -/
inductive Request.TellsOnce (request : Request) (lister : Lister) (site : Site) : Prop
  | recorded (records : request.judgedAt lister site ≠ []) (filled : lister.isVacant site = false)
      (accepted : lister.refusal? site = none)
  | vacant (records : request.judgedAt lister site = []) (vacant : lister.isVacant site = true)
      (accepted : lister.refusal? site = none)
  | refused (records : request.judgedAt lister site = []) (filled : lister.isVacant site = false)
      (refused : (lister.refusal? site).isSome = true)

theorem Request.tellsOnce {request : Request} {lister : Lister} {site : Site}
    (ruled : (request.policies site.2.2).isSome = true) : request.TellsOnce lister site := by
  obtain ⟨policy, ruled⟩ := Option.isSome_iff_exists.mp ruled
  have judged : request.judgedAt lister site = match lister.served site with
      | .ok listed => listed.map fun one =>
        let snapshot := Snapshot.ofListed one site.1 site.2.1
        ⟨snapshot, Rules.decide snapshot policy request.now, 0⟩
      | .error _ => [] := by
    unfold judgedAt
    rw [ruled]
    cases lister.served site <;> rfl
  cases answered : lister.served site with
  | error failure =>
    refine .refused ?_ ?_ ?_ <;> simp [judged, Lister.isVacant, Lister.refusal?, answered]
  | ok listed =>
    cases listed with
    | nil => refine .vacant ?_ ?_ ?_ <;> simp [judged, Lister.isVacant, Lister.refusal?, answered]
    | cons one listed =>
      refine .recorded ?_ ?_ ?_ <;> simp [judged, Lister.isVacant, Lister.refusal?, answered]

/-- Every age that a policy asks for is defined. -/
def Request.Datable (request : Request) (lister : Lister) : Prop :=
  ∀ site ∈ request.sites, ∀ policy, request.policies site.2.2 = some policy →
    ∀ listed, lister.served site = .ok listed → ∀ one ∈ listed,
      Rules.isDefined (Snapshot.ofListed one site.1 site.2.1) policy request.now = true

theorem Request.exists_unit {request : Request} {site : Site} (asked : site ∈ request.sites) :
    ∃ unit ∈ request.units, ∃ kind ∈ unit.kinds, site = (unit.account, unit.region, kind) := by
  rw [← units_sites] at asked
  obtain ⟨unit, planned, own⟩ := List.mem_flatMap.mp asked
  exact ⟨unit, planned, WorkUnit.mem_sites_iff.mp own⟩

theorem Request.site_mem {request : Request} {unit : WorkUnit} (planned : unit ∈ request.units)
    {kind : Kind} (turn : kind ∈ unit.kinds) : (unit.account, unit.region, kind) ∈ request.sites := by
  rw [← units_sites]
  exact List.mem_flatMap.mpr ⟨unit, planned, WorkUnit.mem_sites_iff.mpr ⟨kind, turn, rfl⟩⟩

theorem Request.mem_enabled_iff {request : Request} {scope : Scope} {kind : Kind} :
    kind ∈ request.enabled scope ↔ kind.scope = scope ∧ kind ∈ request.kinds := by
  have known : kind ∈ Kind.all := by cases kind <;> decide
  simp [enabled, known]

/-- Regional kinds have the regions of the request, and global kinds the global region alone. -/
theorem Request.mem_sites_iff {request : Request} {account : Account} {region : String}
    {kind : Kind} : (account, region, kind) ∈ request.sites ↔
      account ∈ request.accounts ∧ kind ∈ request.kinds ∧
        ((kind.scope = .regional ∧ region ∈ request.regions) ∨
          (kind.scope = .global ∧ region = WorkUnit.globalRegion)) := by
  simp only [sites, List.mem_flatMap, List.mem_append, List.mem_map, mem_enabled_iff,
    Prod.mk.injEq]
  constructor
  · rintro ⟨_, visited, ⟨_, swept, _, ⟨scope, wanted⟩, rfl, rfl, rfl⟩ |
      ⟨_, ⟨scope, wanted⟩, rfl, rfl, rfl⟩⟩
    · exact ⟨visited, wanted, .inl ⟨scope, swept⟩⟩
    · exact ⟨visited, wanted, .inr ⟨scope, rfl⟩⟩
  · rintro ⟨visited, wanted, ⟨scope, swept⟩ | ⟨scope, rfl⟩⟩
    · exact ⟨_, visited, .inl ⟨_, swept, _, ⟨scope, wanted⟩, rfl, rfl, rfl⟩⟩
    · exact ⟨_, visited, .inr ⟨_, ⟨scope, wanted⟩, rfl, rfl, rfl⟩⟩

theorem Request.mem_kinds {request : Request} {site : Site} (asked : site ∈ request.sites) :
    site.2.2 ∈ request.kinds :=
  (mem_sites_iff.mp asked).2.1

theorem Request.check_of_dry {request : Request} (dry : request.dryRun = true)
    (ruled : ∀ kind ∈ request.kinds, (request.policies kind).isSome = true) (hasExecutor : Bool) :
    request.check hasExecutor = .ok () := by
  have complete : request.kinds.find? (fun kind => (request.policies kind).isNone) = none := by
    refine List.find?_eq_none.mpr fun kind enabled => ?_
    obtain ⟨policy, rule⟩ := Option.isSome_iff_exists.mp (ruled kind enabled)
    simp [rule]
  rw [check, complete]
  simp [dry]

namespace WorkUnit

variable {unit : WorkUnit} {request : Request} {lister : Lister} {kind : Kind}
  {events : List Event} {result : UnitResult}

theorem forecast_eq (ruled : (request.policies kind).isSome = true) :
    unit.forecast request lister kind =
      ⟨request.judgedAt lister (unit.account, unit.region, kind),
        (lister.refusal? (unit.account, unit.region, kind)).toList,
        if lister.isVacant (unit.account, unit.region, kind) then 1 else 0⟩ := by
  obtain ⟨policy, ruled⟩ := Option.isSome_iff_exists.mp ruled
  unfold forecast Request.judgedAt Lister.refusal? Lister.isVacant Lister.served
  rw [ruled]
  cases lister unit.account unit.region kind with
  | error failure => rfl
  | ok listed => cases listed <;> rfl

/-- In a dry run a kind is listed once, and its result is what was foretold. -/
theorem SweptKind.of_dry {goesOn : Bool}
    (swept : SweptKind unit request kind events (some (result, goesOn)))
    (allowed : (Behaviour.listing lister).Allows events) (dry : request.dryRun = true)
    (ruled : (request.policies kind).isSome = true) :
    events = [lister.event (unit.account, unit.region, kind)] ∧
      result = unit.forecast request lister kind := by
  have served {answer : Except ListingError (List Listed)}
      (asked : unit.listing kind answer ∈ events) :
      lister unit.account unit.region kind = answer := (allowed _ asked).symm
  have event {answer : Except ListingError (List Listed)}
      (same : lister unit.account unit.region kind = answer) :
      lister.event (unit.account, unit.region, kind) = unit.listing kind answer := by
    rw [← same]
    rfl
  cases swept with
  | unruled unruled => simp [unruled] at ruled
  | refused ruled failure =>
    have answered := served List.mem_cons_self
    rw [event answered, forecast, ruled, answered]
    exact ⟨rfl, rfl⟩
  | vacant ruled =>
    have answered := served List.mem_cons_self
    rw [event answered, forecast, ruled, answered]
    exact ⟨rfl, rfl⟩
  | judged ruled present _ handled =>
    have answered := served List.mem_cons_self
    cases handled with
    | dry =>
      rw [event answered, forecast, ruled, answered]
      simp [present]
    | applied wet | settled wet | paused wet => simp [dry] at wet

end WorkUnit

theorem Record.site_of_key {a b : Record} (same : a.key = b.key) : a.site = b.site := by
  obtain ⟨account, region, kind, -⟩ := Record.key_inj.mp same
  rw [site, site, account, region, kind]

theorem Lister.ListsKinds.site_judgedAt {lister : Lister} (lists : lister.ListsKinds)
    {request : Request} {site : Site} :
    ∀ record ∈ request.judgedAt lister site, record.site = site := by
  intro record member
  unfold Request.judgedAt at member
  split at member
  · rename_i policy listed ruled answered
    obtain ⟨one, present, rfl⟩ := List.mem_map.mp member
    have own : (WorkUnit.recordOf ⟨site.1, site.2.1, []⟩ policy request.now one).site = _ :=
      WorkUnit.site_recordOf policy request.now one
    rw [lists _ _ _ _ answered one present] at own
    exact own
  · cases member
  · cases member

namespace Pool

variable {behaviour : Behaviour} {request : Request} {lister : Lister} {pool : Pool}

theorem Reached.received_sites (reached : Reached behaviour request pool)
    (finished : pool.isFinished = true) :
    (pool.received.flatMap fun delivery => delivery.unit.sites).Perm request.sites := by
  have units := (reached.received_units finished).flatMap_right WorkUnit.sites
  rw [Request.units_sites, List.flatMap_map] at units
  exact units

/-- What a unit of a dry run has asked, and what it has come to, read off its sites. -/
structure Surveyed (request : Request) (lister : Lister) (delivery : Delivery) : Prop where
  events : delivery.events = delivery.unit.sites.map lister.event
  records : delivery.result.records = delivery.unit.sites.flatMap (request.judgedAt lister)
  issues : delivery.result.issues = delivery.unit.sites.filterMap lister.refusal?
  emptyListings : delivery.result.emptyListings = delivery.unit.sites.countP lister.isVacant

section Dry

variable (reached : Reached (.listing lister) request pool) (dry : request.dryRun = true)
  (ruled : ∀ kind ∈ request.kinds, (request.policies kind).isSome = true)
include reached dry ruled

theorem Reached.surveyed {delivery : Delivery} (done : delivery ∈ pool.received) :
    Surveyed request lister delivery := by
  obtain ⟨turns, all, kinds⟩ := reached.turns_of_dry dry done
  obtain ⟨planned, allowed, -⟩ := reached.delivered (List.mem_append_right _ done)
  let place (turn : WorkUnit.Turn) : Site := (delivery.unit.account, delivery.unit.region, turn.kind)
  have each {turn : WorkUnit.Turn} (member : turn ∈ turns) :
      turn.events = [lister.event (place turn)] ∧
        turn.result = ⟨request.judgedAt lister (place turn), (lister.refusal? (place turn)).toList,
          if lister.isVacant (place turn) then 1 else 0⟩ := by
    have own : turn.kind ∈ delivery.unit.kinds := kinds ▸ List.mem_map_of_mem member
    have wanted := ruled _ (Request.mem_kinds (Request.site_mem planned own))
    obtain ⟨events, result⟩ := (all.swept turn member).of_dry
      (allowed.mono (all.events_subset member)) dry wanted
    exact ⟨events, result.trans (WorkUnit.forecast_eq wanted)⟩
  have sites : delivery.unit.sites = turns.map place := by
    rw [WorkUnit.sites, ← kinds, List.map_map]
    rfl
  constructor
  · rw [all.asked, sites, List.map_map, List.map_eq_flatMap]
    exact List.flatMap_congr fun turn member => (each member).1
  · rw [all.records, sites, List.flatMap_map]
    exact List.flatMap_congr fun turn member => congrArg UnitResult.records (each member).2
  · rw [all.issues, sites, List.filterMap_map, List.filterMap_eq_flatMap_toList]
    exact List.flatMap_congr fun turn member => congrArg UnitResult.issues (each member).2
  · have counts := List.map_congr_left fun turn member =>
      congrArg UnitResult.emptyListings (each member).2
    rw [all.emptyListings, counts, sites, List.countP_map, List.countP_eq_length_filter,
      List.sum_map_ite]
    simp [Function.comp_def]

theorem Reached.records_of_dry (lists : lister.ListsKinds) (finished : pool.isFinished = true) :
    (pool.report request).records =
      (request.sites.flatMap (request.judgedAt lister)).mergeSort Record.precedes := by
  have each := List.flatMap_congr fun delivery (done : delivery ∈ pool.received) =>
    (reached.surveyed dry ruled done).records
  rw [report, Report.records_assemble, List.flatMap_map, each, ← Request.units_sites,
    List.flatMap_assoc]
  refine reached.sorted_eq finished Record.precedes_iff Record.site
    (fun _ _ => Record.site_of_key)
    (fun unit => unit.sites.flatMap (request.judgedAt lister)) fun unit record member => ?_
  obtain ⟨site, own, judged⟩ := List.mem_flatMap.mp member
  rw [lists.site_judgedAt record judged]
  exact WorkUnit.mem_sites_iff.mp own

theorem Reached.issues_of_dry (finished : pool.isFinished = true) :
    (pool.report request).summary.issues.Perm (request.sites.filterMap lister.refusal?) := by
  have each := List.flatMap_congr fun delivery (done : delivery ∈ pool.received) =>
    (reached.surveyed dry ruled done).issues
  have perm := (reached.received_sites finished).filterMap lister.refusal?
  rw [List.filterMap_flatMap] at perm
  exact report_issues_perm.trans (each ▸ perm)

theorem Reached.emptyListings_of_dry (finished : pool.isFinished = true) :
    (pool.report request).summary.emptyListings = request.sites.countP lister.isVacant := by
  have each := List.map_congr_left fun delivery (done : delivery ∈ pool.received) =>
    (reached.surveyed dry ruled done).emptyListings
  rw [← (reached.received_sites finished).countP_eq, List.countP_flatMap, report,
    Report.emptyListings_assemble, List.map_map]
  exact congrArg List.sum each

theorem Reached.asked_of_dry (finished : pool.isFinished = true) :
    (pool.events.map (·.2)).Perm (request.sites.map lister.event) := by
  have each := List.flatMap_congr fun delivery (done : delivery ∈ pool.received) =>
    (reached.surveyed dry ruled done).events
  have perm := (reached.received_sites finished).map lister.event
  have events := (reached.events_perm finished).map (·.2)
  have plain : (pool.received.flatMap fun delivery =>
      delivery.events.map (delivery.unit, ·)).map (·.2) =
        pool.received.flatMap (·.events) := by
    simp [List.map_flatMap, Function.comp_def]
  rw [plain] at events
  rw [List.map_flatMap, ← each] at perm
  exact events.trans perm

end Dry

theorem Reached.isFinished_iff_datable (reached : Reached (.listing lister) request pool)
    (dry : request.dryRun = true) (stuck : pool.IsStuck request) :
    pool.isFinished = true ↔ request.Datable lister := by
  constructor
  · intro finished site asked policy rule listed answered one present
    obtain ⟨unit, planned, kind, turn, rfl⟩ := Request.exists_unit asked
    obtain ⟨delivery, done, rfl⟩ :=
      List.mem_map.mp ((reached.received_units finished).mem_iff.mpr planned)
    obtain ⟨turns, all, kinds⟩ := reached.turns_of_dry dry done
    have allowed := (reached.delivered (List.mem_append_right _ done)).2.1
    rw [← kinds] at turn
    obtain ⟨part, inside, rfl⟩ := List.mem_map.mp turn
    exact (all.swept part inside).defined (allowed.mono (all.events_subset inside)) rule answered
      one present
  · intro datable
    by_contra unfinished
    obtain ⟨unit, planned, kind, turn, policy, listed, rule, answered, undefined⟩ :=
      reached.undefined_of_unfinished stuck unfinished
    exact undefined fun one present =>
      datable _ (Request.site_mem planned turn) policy rule listed answered.symm one present

/-- What a dry run and its report come to. The records are those of all that is listed, in the order of
their keys and, under one key, of the listing. -/
structure Exhaustive (request : Request) (lister : Lister) (pool : Pool) : Prop where
  asked : (pool.events.map (·.2)).Perm (request.sites.map lister.event)
  records : (pool.report request).records.Perm (request.sites.flatMap (request.judgedAt lister))
  sorted : (pool.report request).records.Pairwise fun a b => a.key ≤ b.key
  stable : ∀ key, (pool.report request).records.filter (·.key = key) =
    (request.sites.flatMap (request.judgedAt lister)).filter (·.key = key)
  issues : (pool.report request).summary.issues.Perm (request.sites.filterMap lister.refusal?)
  emptyListings : (pool.report request).summary.emptyListings = request.sites.countP lister.isVacant
  once : ∀ site ∈ request.sites, request.TellsOnce lister site

/-- Every report counts the operations of its records. A dry run with a policy for each of its kinds
begins, ends where all ages are defined, and then has listed what it was asked to list and lost nothing
of it. -/
theorem Reached.exhaustive (reached : Reached behaviour request pool) :
    (pool.report request).Tallied ∧
    ∀ lister, lister.ListsKinds →
      (∀ call answer, behaviour call answer → Behaviour.listing lister call answer) →
      request.dryRun = true → (∀ kind ∈ request.kinds, (request.policies kind).isSome = true) →
        request.check false = .ok () ∧
        (pool.IsStuck request → (pool.isFinished = true ↔ request.Datable lister)) ∧
        (pool.isFinished = true → Exhaustive request lister pool) := by
  refine ⟨Report.tallied_assemble request _, fun lister lists within dry ruled => ?_⟩
  have listed : Reached (.listing lister) request pool := reached.mono within
  refine ⟨Request.check_of_dry dry ruled false, listed.isFinished_iff_datable dry, fun finished => ?_⟩
  have records := listed.records_of_dry dry ruled lists finished
  constructor
  · exact listed.asked_of_dry dry ruled finished
  · rw [records]
    exact List.mergeSort_perm _ _
  · exact Report.records_sorted
  · intro key
    rw [records]
    exact filter_mergeSort Record.precedes_iff _ key
  · exact listed.issues_of_dry dry ruled finished
  · exact listed.emptyListings_of_dry dry ruled finished
  · exact fun site asked => Request.tellsOnce (ruled _ (Request.mem_kinds asked))

end Pool

/-- Two images with one id in a region without a volume, and no second account. -/
def Capture.ofTwins : Capture :=
  Capture.empty.set .main
    { regions := Dictionary.empty.insert "us-east-1" ⟨[], [],
        [⟨"ami-1", "first", "machine", none, none⟩, ⟨"ami-1", "second", "machine", none, none⟩],
        [], [], [], []⟩
      buckets := []
      resourceGroups := [] }

/-- A dry run over both accounts which names the region twice. -/
def Request.forTwins : Request :=
  ⟨[.main, .second], ["us-east-1", "us-east-1"], [.image, .volume], fun _ => some .tagOnly, true, 1,
    .noon⟩

namespace Pool

/-- Of eight listings two hold both images, two are empty and four fail. -/
theorem exhaustive_twins :
    let lister := Capture.ofTwins.lister
    ∃ pool, Reached (.listing lister) .forTwins pool ∧ pool.isFinished = true ∧
      lister.ListsKinds ∧ Request.forTwins.dryRun = true ∧
      (∀ kind ∈ Request.forTwins.kinds, (Request.forTwins.policies kind).isSome = true) ∧
      Request.forTwins.sites.length = 8 ∧
      (pool.report .forTwins).records.length = 4 ∧
      (pool.report .forTwins).summary.emptyListings = 2 ∧
      (pool.report .forTwins).summary.issues.length = 4 ∧
      (pool.report .forTwins).Tallied ∧ Exhaustive .forTwins lister pool := by
  intro lister
  let answer := lister.answering (.ok ⟨0⟩)
  have run : ((start .forTwins).play .forTwins
      (List.replicate 8 [.take 0, .ask 0 answer, .send 0, .receive]).flatten).map
        (·.isFinished) = some true := by
    decide +kernel
  obtain ⟨pool, played, finished⟩ := Option.map_eq_some_iff.mp run
  have possible := lister.answering_possible (.ok ⟨0⟩)
  have reached : Reached (.listing lister) .forTwins pool :=
    reached_of_play .start (by simp [Move.Fits, answer, possible]) played
  have lists : lister.ListsKinds := Capture.lister_listsKinds
  obtain ⟨tallied, complete⟩ := reached.exhaustive
  have exhaustive := (complete lister lists (fun _ _ => id) rfl fun _ _ => rfl).2.2 finished
  refine ⟨pool, reached, finished, lists, rfl, fun _ _ => rfl, by decide, ?_, ?_, ?_, tallied,
    exhaustive⟩
  · rw [exhaustive.records.length_eq]
    decide +kernel
  · rw [exhaustive.emptyListings]
    decide +kernel
  · rw [exhaustive.issues.length_eq]
    decide +kernel

end Pool
end Retention
