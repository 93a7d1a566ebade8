import Retention.Proofs.Sweep.Coverage

/-!
Nothing is carried out twice. Where no account and no region is named twice, no two units have a site in
common; and what a unit carries out under a site follows its listing, so an id comes back only where the
listing repeats it.
-/
namespace Retention

/-- The resource that an operation is to be carried out on: its site and its id. -/
def Call.affected? : Call → Option (Site × String)
  | .execute _ snapshot => some ((snapshot.account, snapshot.region, snapshot.kind), snapshot.id)
  | .list .. | .wait .. => none

def affected (events : List Event) : List (Site × String) := events.filterMap (·.call.affected?)

theorem site_of_mem_affected {events : List Event} {target : Site × String}
    (member : target ∈ affected events) : ∃ event ∈ events, event.call.site = target.1 := by
  obtain ⟨event, asked, found⟩ := List.mem_filterMap.mp member
  refine ⟨event, asked, ?_⟩
  obtain ⟨call, answer⟩ := event
  cases call with
  | execute operation snapshot =>
    cases found
    rfl
  | list | wait => cases found

/-- No listing has an id twice. -/
def Lister.UniqueIds (lister : Lister) : Prop :=
  ∀ account region kind listed, lister account region kind = .ok listed →
    (listed.map Listed.id).Nodup

theorem Request.sites_nodup {request : Request} (distinct : request.accounts.Nodup)
    (distinct' : request.regions.Nodup) : request.sites.Nodup := by
  have chosen (scope : Scope) : (request.enabled scope).Nodup :=
    List.Nodup.filter _ (by decide)
  refine List.nodup_flatMap.mpr ⟨fun account _ => List.nodup_append.mpr ⟨?_, ?_, ?_⟩, ?_⟩
  · refine List.nodup_flatMap.mpr ⟨fun region _ => (chosen _).map ?_, ?_⟩
    · intro kind kind' same
      simpa using same
    · refine distinct'.imp fun apart site inside inside' => apart ?_
      obtain ⟨kind, -, rfl⟩ := List.mem_map.mp inside
      obtain ⟨kind', -, same⟩ := List.mem_map.mp inside'
      exact (congrArg (·.2.1) same).symm
  · refine (chosen _).map fun kind kind' same => ?_
    simpa using same
  · intro site regional site' global same
    obtain ⟨region, -, placed⟩ := List.mem_flatMap.mp regional
    obtain ⟨kind, inside, rfl⟩ := List.mem_map.mp placed
    obtain ⟨kind', inside', rfl⟩ := List.mem_map.mp global
    cases same
    cases (mem_enabled_iff.mp inside).1.symm.trans (mem_enabled_iff.mp inside').1
  · refine distinct.imp fun apart site inside inside' => apart ?_
    have owner {account : Account} (owned : site ∈ (request.regions.flatMap fun region =>
        (request.enabled .regional).map fun kind => (account, region, kind)) ++
        (request.enabled .global).map fun kind => (account, WorkUnit.globalRegion, kind)) :
        site.1 = account := by
      rcases List.mem_append.mp owned with regional | global
      · obtain ⟨region, -, placed⟩ := List.mem_flatMap.mp regional
        obtain ⟨kind, -, rfl⟩ := List.mem_map.mp placed
        rfl
      · obtain ⟨kind, -, rfl⟩ := List.mem_map.mp global
        rfl
    exact (owner inside).symm.trans (owner inside')

namespace WorkUnit

variable {unit : WorkUnit} {request : Request} {kind : Kind} {kinds : List Kind}
  {events : List Event}

theorem CarriedOut.affected_sublist {records done : List Record} {issues : List Issue}
    (carried : CarriedOut unit kind records events done issues) :
    (affected events).Sublist (records.map fun record => (record.site, record.snapshot.id)) := by
  induction carried with
  | nil => exact List.nil_sublist _
  | spared _ _ ih => exact ih.cons _
  | executed _ _ _ ih => exact ih.cons_cons _

theorem Handled.affected_sublist {records : List Record} {result : UnitResult} {goesOn : Bool}
    (handled : Handled unit request kind records events result goesOn) :
    (affected events).Sublist (records.map fun record => (record.site, record.snapshot.id)) := by
  cases handled with
  | dry => exact List.nil_sublist _
  | applied _ _ carried | settled _ _ carried => exact carried.affected_sublist
  | @paused done executions _ _ _ carried _ answer =>
    have quiet : affected (executions ++ [unit.pause (awaited done) answer]) =
        affected executions := by
      rw [affected, List.filterMap_append]
      exact List.append_nil _
    rw [quiet]
    exact carried.affected_sublist

theorem SweptKind.affected_nodup {outcome : Option (UnitResult × Bool)}
    (swept : SweptKind unit request kind events outcome)
    (unique : ∀ listed, unit.listing kind (.ok listed) ∈ events → (listed.map Listed.id).Nodup) :
    (affected events).Nodup := by
  cases swept with
  | unruled | refused | undefined | vacant => exact List.nodup_nil
  | @judged policy listed later _ _ _ _ _ handled =>
    have ids : (listed.map Listed.id).Nodup := unique listed List.mem_cons_self
    have quiet : affected (unit.listing kind (.ok listed) :: later) = affected later := rfl
    rw [quiet]
    refine handled.affected_sublist.nodup (List.Nodup.of_map Prod.snd ?_)
    rw [List.map_map, List.map_map]
    have same (one : Listed) : (unit.recordOf policy request.now one).snapshot.id = one.id :=
      id_snapshotOf one
    simpa [Function.comp_def, same] using ids

/-- Kinds follow one another, and what is carried out for one of them is under its own site. -/
theorem SweptKinds.affected_nodup {outcome : Option UnitResult}
    (swept : SweptKinds unit request kinds events outcome) (distinct : kinds.Nodup)
    (allowed : Behaviour.askedKinds.Allows events)
    (unique : ∀ kind listed, unit.listing kind (.ok listed) ∈ events →
      (listed.map Listed.id).Nodup) :
    (affected events).Nodup := by
  induction swept with
  | nil => exact List.nodup_nil
  | broken head | stopped head => exact head.affected_nodup (unique _)
  | @goesOn kind kinds past later _ _ head tail ih =>
    obtain ⟨first, second⟩ := Behaviour.allows_append.mp allowed
    obtain ⟨fresh, rest⟩ := List.nodup_cons.mp distinct
    have split : affected (past ++ later) = affected past ++ affected later :=
      List.filterMap_append
    rw [split]
    refine List.nodup_append.mpr ⟨?_, ?_, ?_⟩
    · exact head.affected_nodup fun listed asked => unique kind listed (List.mem_append_left _ asked)
    · exact ih rest second fun kind listed asked =>
        unique kind listed (List.mem_append_right _ asked)
    · intro target early target' late same
      obtain ⟨event, asked, place⟩ := site_of_mem_affected early
      obtain ⟨event', asked', place'⟩ := site_of_mem_affected late
      have here := head.site first event asked
      obtain ⟨kind', turn, there⟩ := tail.site second event' asked'
      rw [place, same, ← place', there] at here
      simp only [Prod.mk.injEq, true_and] at here
      exact fresh (here ▸ turn)

end WorkUnit

namespace Pool

variable {request : Request} {lister : Lister} {pool : Pool}

/-- No resource is carried out twice, however the units are shared out among workers. -/
theorem Reached.affected_nodup (lists : lister.ListsKinds) (unique : lister.UniqueIds)
    (apart : request.sites.Nodup) (reached : Reached (.listing lister) request pool) :
    (affected (pool.events.map (·.2))).Nodup := by
  have accounted := reached.accounted
  have own (job : Worker) (inside : job ∈ pool.jobs) : (affected job.events).Nodup ∧
      ∀ target ∈ affected job.events, target.1 ∈ job.unit.sites := by
    have listed : (job.unit, job.events) ∈ pool.dialogues := by
      rw [dialogues_eq]
      exact List.mem_map_of_mem (f := fun job : Worker => (job.unit, job.events)) inside
    obtain ⟨planned, dialogue, outcome, start, allowed, swept⟩ :=
      reached.dialogue (Behaviour.listing_responds lister) listed
    have asked : Behaviour.askedKinds.Allows dialogue :=
      fun event member => lists.askedKinds _ _ (allowed event member)
    have kinds : job.unit.kinds.Nodup := by
      rw [← Request.units_sites] at apart
      exact .of_map _ ((List.nodup_flatMap.mp apart).1 job.unit planned)
    have whole := swept.affected_nodup kinds asked fun kind listed answered =>
      unique _ _ kind listed (allowed _ answered).symm
    refine ⟨(start.sublist.filterMap _).nodup whole, fun target member => ?_⟩
    obtain ⟨event, early, place⟩ := site_of_mem_affected member
    rw [← place]
    exact WorkUnit.mem_sites_iff.mpr (swept.site asked event (start.subset early))
  -- The jobs are units of the plan, each at its place, so no two of them share a site.
  have separate : pool.jobs.Pairwise
      (Function.onFun List.Disjoint fun job => job.unit.sites) := by
    have units := accounted.units.flatMap_right WorkUnit.sites
    rw [Request.units_sites, List.flatMap_append, List.flatMap_map] at units
    have jobs := (List.nodup_append.mp (units.nodup_iff.mpr apart)).2.1
    exact (List.nodup_flatMap.mp jobs).2
  have perm : (affected (pool.events.map (·.2))).Perm
      (pool.jobs.flatMap fun job => affected job.events) := by
    have events := (accounted.events.map (·.2)).filterMap (·.call.affected?)
    rw [List.map_flatMap, List.filterMap_flatMap] at events
    refine events.trans (.of_eq (List.flatMap_congr fun job _ => ?_))
    simp [Worker.log, affected, Function.comp_def]
  rw [perm.nodup_iff, List.nodup_flatMap]
  refine ⟨fun job inside => (own job inside).1, ?_⟩
  refine separate.imp_of_mem fun inside inside' disjoint target member member' => ?_
  exact disjoint ((own _ inside).2 target member) ((own _ inside').2 target member')

end Pool
end Retention
