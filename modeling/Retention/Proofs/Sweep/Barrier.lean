import Retention.Proofs.Sweep.Audit

/-!
Instances before volumes. A region's instances and volumes are one unit, so whatever else goes on, its
volumes are neither listed nor touched until all is done about its instances, and not at all once a wait
for these has failed. Nothing else keeps the volumes from their turn.
-/
namespace Retention

/-- A listing that failed or came back without a resource. -/
def Event.isFruitless : Event → Bool
  | ⟨.list .., .ok (_ :: _)⟩ => false
  | ⟨.list .., _⟩ => true
  | ⟨.execute .., _⟩ | ⟨.wait .., _⟩ => false

/-- The unit of the instances and volumes of a region. -/
def Request.sharedUnit (request : Request) (account : Account) (region : String) : WorkUnit :=
  ⟨account, region, WorkUnit.fused.filter (request.kinds.contains ·)⟩

theorem Request.eq_sharedUnit {request : Request} {unit : WorkUnit} (planned : unit ∈ request.units)
    {kind : Kind} (turn : kind ∈ unit.kinds) (known : kind ∈ WorkUnit.fused) :
    unit = request.sharedUnit unit.account unit.region := by
  rw [sharedUnit, ← WorkUnit.kinds_of_fused planned turn known]

theorem Request.ruled_of_check {request : Request} {hasExecutor : Bool}
    (ready : request.check hasExecutor = .ok ()) {kind : Kind} (enabled : kind ∈ request.kinds) :
    ∃ policy, request.policies kind = some policy := by
  unfold Request.check at ready
  split at ready
  · cases ready
  · rename_i complete
    have ruled := List.find?_eq_none.mp complete kind enabled
    exact Option.ne_none_iff_exists'.mp (by simpa using ruled)

namespace WorkUnit

variable {unit : WorkUnit} {request : Request} {kind : Kind} {events : List Event}

/-- What has been judged is in the result, and has been carried out if it is to change. -/
theorem CarriedOut.mem {records done : List Record} {issues : List Issue}
    (carried : CarriedOut unit kind records events done issues) {record : Record}
    (member : record ∈ records) :
    ∃ after ∈ done, after.snapshot = record.snapshot ∧
      after.verdict.operation = record.verdict.operation ∧
      (record.verdict.operation.isMutating = true →
        ∃ answer, WorkUnit.execution record answer ∈ events) := by
  induction carried with
  | nil => cases member
  | spared idle _ ih =>
    rcases List.mem_cons.mp member with rfl | later
    · exact ⟨_, List.mem_cons_self, rfl, rfl, by simp [idle]⟩
    · obtain ⟨after, inside, found⟩ := ih later
      exact ⟨after, List.mem_cons_of_mem _ inside, found⟩
  | @executed first _ _ _ _ _ answer _ ih =>
    rcases List.mem_cons.mp member with rfl | later
    · refine ⟨_, List.mem_cons_self, afterExecution_snapshot record answer, ?_,
        fun _ => ⟨answer, List.mem_cons_self⟩⟩
      cases answer with
      | ok => rfl
      | error failure => cases benign : failure.isBenign <;> simp [afterExecution, benign]
    · obtain ⟨after, inside, same, operation, asked⟩ := ih later
      refine ⟨after, List.mem_cons_of_mem _ inside, same, operation, fun mutating => ?_⟩
      obtain ⟨answer, present⟩ := asked mutating
      exact ⟨answer, List.mem_cons_of_mem _ present⟩

/-- A unit stops at instances only if it has listed some. -/
theorem SweptKind.fruitful {result : UnitResult} {goesOn : Bool}
    (swept : SweptKind unit request kind events (some (result, goesOn)))
    (stopped : goesOn = false) : ∀ event ∈ events, event.isFruitless = false := by
  cases swept with
  | unruled | refused | vacant => cases stopped
  | @judged policy listed _ _ _ _ present _ handled =>
    cases handled with
    | dry | applied | settled => cases stopped
    | paused _ _ carried =>
      intro event member
      rcases List.mem_cons.mp member with rfl | later
      · cases listed with
        | nil => exact absurd rfl present
        | cons => rfl
      · rcases List.mem_append.mp later with inside | last
        · obtain ⟨record, -, -, answer, rfl⟩ := carried.execution inside
          rfl
        · rw [List.mem_singleton.mp last]
          rfl

end WorkUnit

namespace Pool

variable {request : Request} {pool : Pool} {unit : WorkUnit} {event : Event} {account : Account}
  {region : String} {kind : Kind}

/-- A wait for the instances of the region has failed. -/
def unsettled (pool : Pool) (account : Account) (region : String) : Bool :=
  pool.events.any fun entry =>
    entry.2.isFailedWait && entry.2.call.site = (account, region, .vmInstance)

theorem unsettled_iff : pool.unsettled account region = true ↔
    ∃ unit event, (unit, event) ∈ pool.events ∧ event.isFailedWait = true ∧
      event.call.site = (account, region, .vmInstance) := by
  simp [unsettled, List.any_eq_true]

/-- What has been asked for a unit is the beginning of one of its dialogues. -/
theorem Reached.own_dialogue (reached : Reached .askedKinds request pool)
    (distinct : request.units.Nodup) (member : (unit, event) ∈ pool.events) :
    unit ∈ request.units ∧ ∃ dialogue outcome,
      (pool.events.filter (·.1 = unit)).map (·.2) <+: dialogue ∧
      Behaviour.askedKinds.Allows dialogue ∧
      WorkUnit.SweptKinds unit request unit.kinds dialogue outcome := by
  obtain ⟨job, present, rfl, -⟩ := reached.mem_job member
  have own : (job.unit, job.events) ∈ pool.dialogues := by
    rw [dialogues_eq]
    exact List.mem_map_of_mem (f := fun job : Worker => (job.unit, job.events)) present
  obtain ⟨planned, dialogue, outcome, start, allowed, swept⟩ :=
    reached.dialogue Behaviour.askedKinds_responds own
  rw [reached.transcript distinct job present]
  exact ⟨planned, dialogue, outcome, start, allowed, swept⟩

/-- All that is asked about instances or volumes of a region is asked for one and the same unit. -/
theorem Reached.unit_eq (reached : Reached .askedKinds request pool)
    (member : (unit, event) ∈ pool.events) (known : kind ∈ WorkUnit.fused)
    (here : event.call.site = (account, region, kind)) : unit = request.sharedUnit account region := by
  obtain ⟨planned, dialogue, outcome, inside, allowed, swept⟩ :=
    reached.asked_in_dialogue Behaviour.askedKinds_responds member
  obtain ⟨turn, listed, same⟩ := swept.site allowed event inside
  rw [here, Prod.mk.injEq, Prod.mk.injEq] at same
  obtain ⟨rfl, rfl, rfl⟩ := same
  exact Request.eq_sharedUnit planned listed known

/-- The dialogue of a region whose instances did not settle is about its instances alone. -/
theorem Reached.unsettled_dialogue (reached : Reached .askedKinds request pool)
    (distinct : request.units.Nodup) (stopped : pool.unsettled account region = true) :
    ∃ dialogue result,
      (pool.events.filter (·.1 = request.sharedUnit account region)).map (·.2) <+: dialogue ∧
      Behaviour.askedKinds.Allows dialogue ∧
      WorkUnit.SweptKind (request.sharedUnit account region) request .vmInstance dialogue
        (some (result, false)) := by
  obtain ⟨unit, event, member, failed, here⟩ := unsettled_iff.mp stopped
  obtain rfl := reached.unit_eq member (by simp [WorkUnit.fused]) here
  obtain ⟨planned, dialogue, outcome, start, allowed, swept⟩ := reached.own_dialogue distinct member
  obtain ⟨result, -, machines⟩ := swept.of_failedWait (WorkUnit.vmInstance_notMem_tail planned)
    (start.subset (mem_own member)) failed
  exact ⟨dialogue, result, start, allowed, machines⟩

theorem Reached.unsettled_delivery_iff (reached : Reached .askedKinds request pool)
    (distinct : request.units.Nodup) {delivery : Delivery} (done : delivery ∈ pool.received)
    (own : delivery.unit = request.sharedUnit account region) :
    pool.unsettled account region = true ↔
      ∃ event ∈ delivery.events, event.isFailedWait = true := by
  constructor
  · intro stopped
    obtain ⟨unit, event, member, failed, here⟩ := unsettled_iff.mp stopped
    obtain rfl := reached.unit_eq member (by simp [WorkUnit.fused]) here
    refine ⟨event, ?_, failed⟩
    rw [← reached.delivery_events distinct done, own]
    exact mem_own member
  · intro found
    obtain ⟨event, inside, failed⟩ := found
    obtain ⟨-, allowed, swept⟩ := reached.delivered (List.mem_append_right _ done)
    obtain ⟨kind, -, same⟩ := swept.site allowed event inside
    have machine := Event.site_of_isFailedWait failed
    rw [same] at machine
    subst machine
    refine unsettled_iff.mpr ⟨_, event, reached.asked done inside, failed, ?_⟩
    rw [same, own]
    rfl

theorem Reached.unsettled_delivery (reached : Reached .askedKinds request pool)
    (distinct : request.units.Nodup) (stopped : pool.unsettled account region = true)
    {delivery : Delivery} (done : delivery ∈ pool.received)
    (own : delivery.unit = request.sharedUnit account region) :
    WorkUnit.SweptKind delivery.unit request .vmInstance delivery.events
      (some (delivery.result, false)) := by
  obtain ⟨event, asked, failed⟩ := (reached.unsettled_delivery_iff distinct done own).mp stopped
  obtain ⟨planned, -, swept⟩ := reached.delivered (List.mem_append_right _ done)
  obtain ⟨result, same, machines⟩ := swept.of_failedWait
    (WorkUnit.vmInstance_notMem_tail planned) asked failed
  cases same
  exact machines

/-- A kind has been listed, and the report and the calls show what became of the listing. -/
inductive Processed (request : Request) (pool : Pool) (unit : WorkUnit) (kind : Kind) : Prop
  | refused {failure : ListingError}
      (asked : (unit, unit.listing kind (.error failure)) ∈ pool.events)
      (told : unit.issue .listing kind [] failure.message ∈
        (pool.report request).summary.issues)
  | listed {policy : Policy} {listed : List Listed} (ruled : request.policies kind = some policy)
      (asked : (unit, unit.listing kind (.ok listed)) ∈ pool.events)
      (handled : ∀ one ∈ listed, ∃ record ∈ (pool.report request).records,
        record.snapshot = unit.snapshotOf one ∧
        record.verdict.operation =
          (Rules.decide (unit.snapshotOf one) policy request.now).operation ∧
        (record.verdict.operation.isMutating = true →
          ∃ answer, (unit, WorkUnit.execution record answer) ∈ pool.events))

theorem processed_of_swept (reached : Reached .askedKinds request pool) (wet : request.dryRun = false)
    (other : kind ≠ .vmInstance) {policy : Policy} (ruled : request.policies kind = some policy)
    {delivery : Delivery} (done : delivery ∈ pool.received) {past : List Event}
    {part : UnitResult} {goesOn : Bool}
    (swept : WorkUnit.SweptKind delivery.unit request kind past (some (part, goesOn)))
    (inside : past ⊆ delivery.events) (records : part.records ⊆ delivery.result.records)
    (issues : part.issues ⊆ delivery.result.issues) :
    Processed request pool delivery.unit kind := by
  have asked {event : Event} (member : event ∈ past) : (delivery.unit, event) ∈ pool.events :=
    reached.asked done (inside member)
  cases swept with
  | unruled unruled => simp [ruled] at unruled
  | refused _ failure =>
    refine .refused (asked List.mem_cons_self) ?_
    exact mem_report_issues.mpr ⟨delivery, done, issues List.mem_cons_self⟩
  | vacant => exact .listed ruled (asked List.mem_cons_self) (by simp)
  | @judged policy listed later _ _ ruled _ _ handled =>
    refine .listed ruled (asked List.mem_cons_self) fun one present => ?_
    cases handled with
    | dry dry => simp [wet] at dry
    | settled _ machines | paused _ machines => exact absurd machines other
    | applied _ _ carried =>
      obtain ⟨record, kept, same, operation, called⟩ :=
        carried.mem (List.mem_map_of_mem (f := delivery.unit.recordOf policy request.now) present)
      refine ⟨record, mem_report_records.mpr ⟨delivery, done, records kept⟩, same, operation, ?_⟩
      intro mutating
      obtain ⟨answer, executed⟩ := called (operation ▸ mutating)
      refine ⟨answer, asked (List.mem_cons_of_mem _ ?_)⟩
      rw [WorkUnit.execution, operation, same]
      exact executed

/-- The call has been made and not been answered yet. -/
def InFlight (pool : Pool) (call : Call) : Prop :=
  ∃ unit events next, some ⟨unit, events, .ask call next⟩ ∈ pool.workers

/-- A call may be answered at any time. -/
theorem Reached.answered {behaviour : Behaviour} (reached : Reached behaviour request pool)
    (responds : behaviour.Responds) {place : Nat} {past : List Event} {call : Call}
    {answered : call.Answer → Task UnitResult}
    (asking : pool.workers[place]? = some (some ⟨unit, past, .ask call answered⟩)) :
    ∃ answer next, Reached behaviour request next ∧
      next.events = pool.events ++ [(unit, ⟨call, answer⟩)] ∧
      ∀ other ≠ place, next.workers[other]? = pool.workers[other]? := by
  let move : Move := .ask place fun call => (responds call).choose
  have fits : move.Fits behaviour := fun call => (responds call).choose_spec
  have moved : Moved request pool move _ := .ask asking
  refine ⟨_, _, .move reached fits (move_eq_some_iff.mpr moved), rfl, fun other apart => ?_⟩
  exact List.getElem?_set_ne apart.symm

/-- What holds of the instances and volumes of a region. -/
structure Barred (request : Request) (pool : Pool) (account : Account) (region : String) :
    Prop where
  /-- Nothing happens to the instances once something has happened to the volumes. -/
  order : pool.events.Pairwise fun first second =>
    first.2.call.site = (account, region, .volume) →
      second.2.call.site ≠ (account, region, .vmInstance)
  returned : ∀ first second, pool.InFlight first → pool.InFlight second →
    first.site = (account, region, .volume) → second.site ≠ (account, region, .vmInstance)
  skipped : pool.unsettled account region = true →
    (∀ entry ∈ pool.events, entry.2.call.site ≠ (account, region, .volume)) ∧
    (∀ call, pool.InFlight call → call.site ≠ (account, region, .volume)) ∧
    (∀ record ∈ (pool.report request).records, record.site ≠ (account, region, .volume)) ∧
    ∀ issue ∈ (pool.report request).summary.issues, issue.site ≠ (account, region, .volume)
  fruitless : (∃ entry ∈ pool.events, entry.2.isFruitless = true ∧
      entry.2.call.site = (account, region, .vmInstance)) → pool.unsettled account region = false
  processed : pool.isFinished = true → account ∈ request.accounts → region ∈ request.regions →
    pool.unsettled account region = false →
      Processed request pool (request.sharedUnit account region) .volume

section Barrier

variable (reached : Reached .askedKinds request pool) (distinct : request.units.Nodup)
include reached distinct

theorem Reached.volumes_last : pool.events.Pairwise fun first second =>
    first.2.call.site = (account, region, .volume) →
      second.2.call.site ≠ (account, region, .vmInstance) := by
  refine List.pairwise_iff_forall_sublist.mpr fun {first second} part late early => ?_
  have inside : first ∈ pool.events := part.subset (by simp)
  have inside' : second ∈ pool.events := part.subset (by simp)
  have own := reached.unit_eq inside (by simp [WorkUnit.fused]) late
  have own' := reached.unit_eq inside' (by simp [WorkUnit.fused]) early
  obtain ⟨planned, dialogue, outcome, start, allowed, swept⟩ := reached.own_dialogue distinct inside
  -- Both belong to one dialogue, in which they come in the same order.
  have both : [first.2, second.2].Sublist dialogue := by
    have chosen := (part.filter (·.1 = first.1)).map (·.2)
    simp only [List.filter_cons, own, own', decide_true, if_true, List.filter_nil, List.map_cons,
      List.map_nil] at chosen
    rw [own] at start
    exact chosen.trans start.sublist
  have order : first.1.kinds.Pairwise fun kind later =>
      kind = .volume → later ≠ .vmInstance := by
    rw [own]
    exact List.Pairwise.filter _ (by simp [WorkUnit.fused])
  have ordered := List.pairwise_iff_forall_sublist.mp
    (swept.ordered allowed (by simp) order) both
  rw [late, early] at ordered
  exact ordered rfl rfl

theorem Reached.no_volumes (stopped : pool.unsettled account region = true) :
    (∀ entry ∈ pool.events, entry.2.call.site ≠ (account, region, .volume)) ∧
    (∀ record ∈ (pool.report request).records, record.site ≠ (account, region, .volume)) ∧
    ∀ issue ∈ (pool.report request).summary.issues, issue.site ≠ (account, region, .volume) := by
  -- A delivery about volumes of the region is one of the unit that stopped at its instances.
  have alone {delivery : Delivery} (done : delivery ∈ pool.received)
      (visited : delivery.unit.account = account) (placed : delivery.unit.region = region)
      (turn : Kind.volume ∈ delivery.unit.kinds) :
      WorkUnit.SweptKind delivery.unit request .vmInstance delivery.events
        (some (delivery.result, false)) := by
    have planned := (reached.delivered (List.mem_append_right _ done)).1
    have own := Request.eq_sharedUnit planned turn (by simp [WorkUnit.fused])
    rw [visited, placed] at own
    exact reached.unsettled_delivery distinct stopped done own
  refine ⟨?_, ?_, ?_⟩
  · intro entry member late
    have own := reached.unit_eq member (by simp [WorkUnit.fused]) late
    obtain ⟨dialogue, result, start, allowed, machines⟩ :=
      reached.unsettled_dialogue distinct stopped
    rw [← own] at start machines
    have early := machines.site allowed entry.2 (start.subset (mem_own member))
    rw [late] at early
    cases early
  · intro record member late
    obtain ⟨delivery, done, inside⟩ := mem_report_records.mp member
    obtain ⟨-, allowed, swept⟩ := reached.delivered (List.mem_append_right _ done)
    have asked : delivery.unit.ListsAskedKinds delivery.events :=
      WorkUnit.listsAskedKinds_of_allows allowed
    have recorded := swept.recorded rfl inside
    simp only [Record.site, Prod.mk.injEq] at late
    obtain ⟨visited, placed, volume⟩ := late
    have machines := alone done (recorded.account.symm.trans visited)
      (recorded.region.symm.trans placed) (volume ▸ recorded.kind_mem asked)
    have machine := (machines.recorded inside).kind_mem asked
    simp [volume] at machine
  · intro issue member late
    obtain ⟨delivery, done, inside⟩ := mem_report_issues.mp member
    obtain ⟨-, -, swept⟩ := reached.delivered (List.mem_append_right _ done)
    obtain ⟨account', region', turn⟩ := swept.issues_concern rfl issue inside
    simp only [Issue.site, Prod.mk.injEq] at late
    obtain ⟨visited, placed, volume⟩ := late
    have machines := alone done (account'.symm.trans visited) (region'.symm.trans placed)
      (volume ▸ turn)
    have machine := (machines.issues_concern issue inside).2.2
    simp [volume] at machine

theorem Reached.settled_of_fruitless
    (fruitless : ∃ entry ∈ pool.events, entry.2.isFruitless = true ∧
      entry.2.call.site = (account, region, .vmInstance)) :
    pool.unsettled account region = false := by
  rw [← Bool.not_eq_true]
  intro stopped
  obtain ⟨entry, member, nothing, here⟩ := fruitless
  have own := reached.unit_eq member (by simp [WorkUnit.fused]) here
  obtain ⟨dialogue, result, start, -, machines⟩ := reached.unsettled_dialogue distinct stopped
  rw [← own] at start
  have fruit := machines.fruitful rfl entry.2 (start.subset (mem_own member))
  rw [nothing] at fruit
  cases fruit

theorem Reached.volumes_processed (wet : request.dryRun = false)
    (enabled : Kind.volume ∈ request.kinds) {policy : Policy}
    (ruled : request.policies .volume = some policy) (finished : pool.isFinished = true)
    (visited : account ∈ request.accounts) (swept : region ∈ request.regions)
    (settled : pool.unsettled account region = false) :
    Processed request pool (request.sharedUnit account region) .volume := by
  have turn : Kind.volume ∈ (request.sharedUnit account region).kinds := by
    simp [Request.sharedUnit, WorkUnit.fused, enabled]
  have planned := WorkUnit.fused_mem_plan visited swept (List.ne_nil_of_mem turn)
  have received := (reached.received_units finished).mem_iff.mpr planned
  obtain ⟨delivery, done, own⟩ := List.mem_map.mp received
  obtain ⟨-, -, dialogue⟩ := reached.delivered (List.mem_append_right _ done)
  have quiet : ∀ event ∈ delivery.events, event.isFailedWait = false := by
    intro event member
    rw [← Bool.not_eq_true]
    intro failed
    have stopped := (reached.unsettled_delivery_iff distinct done own).mpr ⟨event, member, failed⟩
    rw [settled] at stopped
    cases stopped
  obtain ⟨turns, all⟩ := dialogue.turns rfl
  change delivery.unit = request.sharedUnit account region at own
  rw [← own, ← all.kinds_eq quiet] at turn
  obtain ⟨part, inside, volume⟩ := List.mem_map.mp turn
  have swept := all.swept part inside
  rw [volume] at swept
  rw [← own]
  exact processed_of_swept reached wet (by simp) ruled done swept (all.events_subset inside)
    (all.records_subset inside) (all.issues_subset inside)

theorem Reached.not_together {first second : Call} (flying : pool.InFlight first)
    (flying' : pool.InFlight second) (late : first.site = (account, region, .volume)) :
    second.site ≠ (account, region, .vmInstance) := by
  intro early
  obtain ⟨unit, past, answered, working⟩ := flying
  obtain ⟨unit', past', answered', working'⟩ := flying'
  obtain ⟨place, asking⟩ := List.mem_iff_getElem?.mp working
  obtain ⟨place', asking'⟩ := List.mem_iff_getElem?.mp working'
  have apart : place' ≠ place := by
    intro same
    subst same
    rw [asking] at asking'
    cases asking'
    rw [late] at early
    cases early
  -- Both could be answered now, the one about the volumes first.
  obtain ⟨answer, middle, between, events, others⟩ :=
    reached.answered Behaviour.askedKinds_responds asking
  rw [← others place' apart] at asking'
  obtain ⟨answer', next, after, events', -⟩ :=
    between.answered Behaviour.askedKinds_responds asking'
  have order : next.events.Pairwise fun first second =>
      first.2.call.site = (account, region, .volume) →
        second.2.call.site ≠ (account, region, .vmInstance) := after.volumes_last distinct
  rw [events', events, List.append_assoc, List.singleton_append] at order
  have pair := (List.pairwise_append.mp order).2.1
  exact List.rel_of_pairwise_cons pair List.mem_cons_self late early

theorem Reached.no_volumes_inFlight (stopped : pool.unsettled account region = true) {call : Call}
    (flying : pool.InFlight call) : call.site ≠ (account, region, .volume) := by
  intro late
  obtain ⟨unit, past, answered, working⟩ := flying
  obtain ⟨place, asking⟩ := List.mem_iff_getElem?.mp working
  obtain ⟨answer, next, after, events, -⟩ :=
    reached.answered Behaviour.askedKinds_responds asking
  have still : next.unsettled account region = true := by
    obtain ⟨other, event, member, failed, here⟩ := unsettled_iff.mp stopped
    refine unsettled_iff.mpr ⟨other, event, ?_, failed, here⟩
    rw [events]
    exact List.mem_append_left _ member
  refine (after.no_volumes distinct still).1 (unit, ⟨call, answer⟩) ?_ late
  rw [events]
  exact List.mem_append_right _ (List.mem_singleton_self _)

end Barrier

/-- The volumes of a region wait for its instances: whatever is asked about volumes is asked after all
that is asked about instances has been answered, and nothing is asked where a wait has failed. Where
none has, the volumes have their turn. -/
theorem Reached.barrier (reached : Reached .askedKinds request pool)
    (accounts : request.accounts.Nodup) (regions : request.regions.Nodup)
    (wet : request.dryRun = false) (ready : request.check true = .ok ())
    (volumes : .volume ∈ request.kinds) :
    (pool.isFinished = true →
      (pool.report request).summary.emptyListings = pool.events.countP (·.2.isVacant)) ∧
    ∀ account region, Barred request pool account region := by
  have distinct : request.units.Nodup := WorkUnit.plan_nodup accounts regions
  obtain ⟨policy, ruled⟩ := Request.ruled_of_check ready volumes
  refine ⟨reached.emptyListings_eq, fun account region => ?_⟩
  constructor
  · exact reached.volumes_last distinct
  · exact fun first second => reached.not_together distinct
  · intro stopped
    obtain ⟨events, records, issues⟩ := reached.no_volumes distinct stopped
    exact ⟨events, fun call => reached.no_volumes_inFlight distinct stopped, records, issues⟩
  · exact reached.settled_of_fruitless distinct
  · exact reached.volumes_processed distinct wet volumes ruled

end Pool

def Provider.Volume.untagged : Provider.Volume :=
  ⟨"vol-1", "us-east-1a", "available", "gp3", 8, none, none, none⟩

/-- Both regions have an instance and a volume, neither of them with a tag. -/
def Capture.ofDisks : Capture :=
  let content : RegionCapture := ⟨[⟨[.untagged]⟩], [.untagged], [], [], [], [], []⟩
  Capture.empty.set .main
    { regions := (Dictionary.empty.insert "us-east-1" content).insert "us-west-2" content
      buckets := []
      resourceGroups := [] }

def Request.forDisks : Request :=
  ⟨[.main], ["us-east-1", "us-west-2"], [.vmInstance, .volume], fun _ => some .tagOnly, false, 2,
    .noon⟩

/-- The wait in one region is answered with `failure`; all else is carried out. -/
def Lister.halting (lister : Lister) (failure : ExecutionError) : (call : Call) → call.Answer
  | .list account region kind => lister account region kind
  | .execute .. => .ok ⟨0⟩
  | .wait _ region _ => if region = "us-east-1" then .error failure else .ok ()

theorem Lister.halting_possible (lister : Lister) (failure : ExecutionError) (call : Call) :
    Behaviour.listing lister call (lister.halting failure call) := by
  cases call <;> first | rfl | trivial

/-- The moves of two workers, a region each. -/
def Move.forDisks (answer : (call : Call) → call.Answer) : List Move :=
  [.take 0, .take 1] ++ List.replicate 3 (.ask 0 answer) ++ List.replicate 5 (.ask 1 answer) ++
    [.send 1, .send 0, .receive, .receive]

theorem Move.forDisks_fits {behaviour : Behaviour} {answer : (call : Call) → call.Answer}
    (possible : ∀ call, behaviour call (answer call)) :
    ∀ move ∈ forDisks answer, move.Fits behaviour := by
  simp [forDisks, Move.Fits, possible]

namespace Pool

/-- Two workers at two regions. Where the wait runs out of time no volume is asked for. -/
theorem barrier_regions :
    let answer := Capture.ofDisks.lister.halting (.waitTimeout ["i-1"] ⟨300000000000⟩)
    ∃ pool, (start .forDisks).play .forDisks (Move.forDisks answer) = some pool ∧
      pool.isFinished = true ∧ Request.forDisks.accounts.Nodup ∧ Request.forDisks.regions.Nodup ∧
      Request.forDisks.dryRun = false ∧ Request.forDisks.check true = .ok () ∧
      pool.unsettled .main "us-east-1" = true ∧ pool.unsettled .main "us-west-2" = false ∧
      ∀ account region, Barred .forDisks pool account region := by
  intro answer
  have run : ((start .forDisks).play .forDisks (Move.forDisks answer)).map (fun pool =>
      (pool.isFinished, pool.unsettled .main "us-east-1", pool.unsettled .main "us-west-2")) =
      some (true, true, false) := by
    decide +kernel
  obtain ⟨pool, played, found⟩ := Option.map_eq_some_iff.mp run
  simp only [Prod.mk.injEq] at found
  obtain ⟨finished, stopped, settled⟩ := found
  have possible (call : Call) : Behaviour.askedKinds call (answer call) :=
    Capture.lister_listsKinds.askedKinds call _ (Lister.halting_possible _ _ call)
  have reached : Reached .askedKinds .forDisks pool :=
    reached_of_play .start (Move.forDisks_fits possible) played
  have barred := reached.barrier (by decide) (by decide) rfl rfl (by decide)
  exact ⟨pool, played, finished, by decide, by decide, rfl, rfl, stopped, settled, barred.2⟩

end Pool
end Retention
