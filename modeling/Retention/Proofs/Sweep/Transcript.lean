import Mathlib.Algebra.GroupWithZero.Nat
import Retention.Proofs.Capture
import Retention.Proofs.Sweep.Waits

/-!
The transcript of a run, read by site and by unit. What is asked for a unit comes in the order of its
dialogue, however much else is asked in between, as long as no unit is planned twice. Nothing but a
failed wait leaves out a part of a unit.
-/
namespace Retention

/-- Account, region and kind. -/
abbrev Site := Account × String × Kind

/-- What a call is about; a wait is about instances. -/
def Call.site : Call → Site
  | .list account region kind => (account, region, kind)
  | .execute _ snapshot => (snapshot.account, snapshot.region, snapshot.kind)
  | .wait account region _ => (account, region, .vmInstance)

def Record.site (record : Record) : Site :=
  (record.snapshot.account, record.snapshot.region, record.kind)

def Issue.site (issue : Issue) : Site := (issue.account, issue.region, issue.resourceKind)

/-- A wait that was answered with an error, of whatever sort. -/
def Event.isFailedWait : Event → Bool
  | ⟨.wait .., .error _⟩ => true
  | _ => false

theorem Event.site_of_isFailedWait {event : Event} (failed : event.isFailedWait = true) :
    event.call.site.2.2 = .vmInstance := by
  obtain ⟨call, answer⟩ := event
  cases call with
  | wait => rfl
  | list | execute => cases failed

/-- Listings hold resources of the kind that was asked for; an executor may answer anything. -/
def Behaviour.askedKinds : Behaviour
  | .list _ _ kind => fun answer => ∀ listed, answer = .ok listed → ∀ one ∈ listed, one.kind = kind
  | .execute .. => fun _ => True
  | .wait .. => fun _ => True

namespace Behaviour

theorem askedKinds_responds : askedKinds.Responds := fun call => by
  cases call with
  | list account region kind => exact ⟨.ok [], by simp [askedKinds]⟩
  | execute => exact ⟨.ok ⟨0⟩, trivial⟩
  | wait => exact ⟨.ok (), trivial⟩

theorem Allows.mono {behaviour : Behaviour} {events past : List Event}
    (allowed : behaviour.Allows events) (part : past ⊆ events) : behaviour.Allows past :=
  fun event member => allowed event (part member)

end Behaviour

/-- Listings hold resources of the kinds that are asked for. -/
def Lister.ListsKinds (lister : Lister) : Prop :=
  ∀ account region kind listed, lister account region kind = .ok listed →
    ∀ one ∈ listed, one.kind = kind

theorem Lister.ListsKinds.askedKinds {lister : Lister} (lists : lister.ListsKinds) (call : Call)
    (answer : call.Answer) (served : Behaviour.listing lister call answer) :
    Behaviour.askedKinds call answer := by
  cases call with
  | list account region kind =>
    intro listed answered
    exact lists account region kind listed (served.symm.trans answered)
  | execute | wait => trivial

theorem Capture.lister_listsKinds {capture : Capture} : capture.lister.ListsKinds :=
  fun _ _ _ _ answered _ present => ((mem_lister_iff answered).mp present).2

namespace WorkUnit

variable {unit : WorkUnit} {request : Request} {kind : Kind} {kinds : List Kind}
  {events : List Event} {event : Event}

theorem listsAskedKinds_of_allows (allowed : Behaviour.askedKinds.Allows events) :
    unit.ListsAskedKinds events := by
  intro kind listed asked
  exact allowed _ asked listed rfl

theorem site_recordOf (policy : Policy) (now : Instant) (one : Listed) :
    (unit.recordOf policy now one).site = (unit.account, unit.region, one.kind) := by
  have account : (unit.recordOf policy now one).snapshot.account = unit.account :=
    account_snapshotOf one
  have region : (unit.recordOf policy now one).snapshot.region = unit.region :=
    region_snapshotOf one
  have same : (unit.recordOf policy now one).kind = one.kind := kind_snapshotOf one
  rw [Record.site, account, region, same]

theorem isWait_of_isFailedWait (failed : event.isFailedWait = true) : event.isWait = true := by
  obtain ⟨call, answer⟩ := event
  cases call with
  | wait => rfl
  | list | execute => cases failed

theorem CarriedOut.site {records done : List Record} {issues : List Issue}
    (carried : CarriedOut unit kind records events done issues)
    (here : ∀ record ∈ records, record.site = (unit.account, unit.region, kind)) :
    ∀ event ∈ events, event.call.site = (unit.account, unit.region, kind) := by
  intro event member
  obtain ⟨record, inside, -, answer, rfl⟩ := carried.execution member
  exact here record inside

theorem SweptKind.site {outcome : Option (UnitResult × Bool)}
    (swept : SweptKind unit request kind events outcome)
    (allowed : Behaviour.askedKinds.Allows events) :
    ∀ event ∈ events, event.call.site = (unit.account, unit.region, kind) := by
  cases swept with
  | unruled => simp
  | refused | undefined | vacant => simp [listing, Call.site]
  | @judged policy listed later result goesOn _ _ _ handled =>
    have asked : unit.ListsAskedKinds (unit.listing kind (.ok listed) :: later) :=
      listsAskedKinds_of_allows allowed
    have here : ∀ record ∈ listed.map (unit.recordOf policy request.now),
        record.site = (unit.account, unit.region, kind) := by
      intro record judged
      obtain ⟨one, present, rfl⟩ := List.mem_map.mp judged
      rw [site_recordOf, asked kind listed List.mem_cons_self one present]
    intro event member
    rcases List.mem_cons.mp member with rfl | inside
    · rfl
    · cases handled with
      | dry => cases inside
      | applied _ _ carried | settled _ _ carried => exact carried.site here event inside
      | paused _ machines carried =>
        rcases List.mem_append.mp inside with old | last
        · exact carried.site here event old
        · rw [List.mem_singleton.mp last, machines]
          rfl

theorem SweptKinds.site {outcome : Option UnitResult}
    (swept : SweptKinds unit request kinds events outcome)
    (allowed : Behaviour.askedKinds.Allows events) :
    ∀ event ∈ events, ∃ kind ∈ kinds, event.call.site = (unit.account, unit.region, kind) := by
  induction swept with
  | nil => simp
  | @broken kind _ _ head | @stopped kind _ _ _ head =>
    intro event member
    exact ⟨kind, List.mem_cons_self, head.site allowed event member⟩
  | @goesOn kind _ _ _ _ _ head _ ih =>
    obtain ⟨first, second⟩ := Behaviour.allows_append.mp allowed
    intro event member
    rcases List.mem_append.mp member with old | new
    · exact ⟨kind, List.mem_cons_self, head.site first event old⟩
    · obtain ⟨later, turn, here⟩ := ih second event new
      exact ⟨later, List.mem_cons_of_mem _ turn, here⟩

theorem SweptKinds.ordered {before : Kind → Kind → Prop} {outcome : Option UnitResult}
    (swept : SweptKinds unit request kinds events outcome)
    (allowed : Behaviour.askedKinds.Allows events) (level : ∀ kind, before kind kind)
    (order : kinds.Pairwise before) :
    events.Pairwise fun first second => before first.call.site.2.2 second.call.site.2.2 := by
  have together {kind : Kind} {past : List Event} {outcome : Option (UnitResult × Bool)}
      (head : SweptKind unit request kind past outcome)
      (possible : Behaviour.askedKinds.Allows past) :
      past.Pairwise fun first second => before first.call.site.2.2 second.call.site.2.2 := by
    refine List.pairwise_of_forall_mem_list fun first inside second inside' => ?_
    rw [head.site possible first inside, head.site possible second inside']
    exact level kind
  induction swept with
  | nil => exact .nil
  | broken head | stopped head => exact together head allowed
  | goesOn head tail ih =>
    obtain ⟨possible, possible'⟩ := Behaviour.allows_append.mp allowed
    obtain ⟨least, rest⟩ := List.pairwise_cons.mp order
    refine List.pairwise_append.mpr ⟨together head possible, ih possible' rest, ?_⟩
    intro first inside second inside'
    obtain ⟨later, turn, here⟩ := tail.site possible' second inside'
    rw [head.site possible first inside, here]
    exact least later turn

/-- A kind lets its unit go on, unless a wait for instances has failed. -/
theorem SweptKind.goesOn_eq {result : UnitResult} {goesOn : Bool}
    (swept : SweptKind unit request kind events (some (result, goesOn))) :
    goesOn = events.all (!·.isFailedWait) ∧ (goesOn = false → kind = .vmInstance) := by
  have silent {records done : List Record} {issues : List Issue} {past : List Event}
      (carried : CarriedOut unit kind records past done issues) :
      past.all (!·.isFailedWait) = true := by
    refine List.all_eq_true.mpr fun event member => ?_
    obtain ⟨record, -, -, answer, rfl⟩ := carried.execution member
    rfl
  have quiet (answer : Except ListingError (List Listed)) :
      (unit.listing kind answer).isFailedWait = false := rfl
  cases swept with
  | unruled => exact ⟨rfl, by simp⟩
  | refused | vacant => simp [quiet]
  | judged _ _ _ handled =>
    cases handled with
    | dry => simp [quiet]
    | applied _ _ carried | settled _ _ carried => simp [quiet, silent carried]
    | paused _ machines carried _ answer =>
      refine ⟨?_, fun _ => machines⟩
      rw [List.all_cons, List.all_append, silent carried, quiet]
      cases answer <;> simp [afterWait, pause, Event.isFailedWait]

/-- A failed wait is the end of its unit, which has got no further than the instances. -/
theorem SweptKinds.of_failedWait {outcome : Option UnitResult}
    (swept : SweptKinds unit request kinds events outcome) (first : Kind.vmInstance ∉ kinds.tail)
    (member : event ∈ events) (failed : event.isFailedWait = true) :
    ∃ result, outcome = some result ∧
      SweptKind unit request .vmInstance events (some (result, false)) := by
  cases swept with
  | nil => cases member
  | broken head =>
    cases head with
    | undefined =>
      rw [List.mem_singleton.mp member] at failed
      cases failed
  | stopped head =>
    have same := head.goesOn_eq.2 rfl
    subst same
    exact ⟨_, rfl, head⟩
  | goesOn head tail =>
    rcases List.mem_append.mp member with old | new
    · have quiet := List.all_eq_true.mp head.goesOn_eq.1.symm event old
      simp [failed] at quiet
    · have silent := tail.isWait first event new
      rw [isWait_of_isFailedWait failed] at silent
      cases silent

/-- The dialogue of one kind, as a part of that of its unit. -/
structure Turn where
  kind : Kind
  events : List Event
  result : UnitResult
  goesOn : Bool

/-- The turns that a dialogue and its result are put together from. -/
structure Turns (unit : WorkUnit) (request : Request) (kinds : List Kind) (events : List Event)
    (result : UnitResult) (turns : List Turn) : Prop where
  swept : ∀ turn ∈ turns, SweptKind unit request turn.kind turn.events (some (turn.result, turn.goesOn))
  inOrder : turns.map (·.kind) <+: kinds
  complete : (∀ turn ∈ turns, turn.goesOn = true) → turns.map (·.kind) = kinds
  asked : events = turns.flatMap (·.events)
  records : result.records = turns.flatMap (·.result.records)
  issues : result.issues = turns.flatMap (·.result.issues)
  emptyListings : result.emptyListings = (turns.map (·.result.emptyListings)).sum

theorem SweptKinds.turns {outcome : Option UnitResult} {result : UnitResult}
    (swept : SweptKinds unit request kinds events outcome) (ended : outcome = some result) :
    ∃ turns, Turns unit request kinds events result turns := by
  induction swept generalizing result with
  | nil =>
    cases ended
    exact ⟨[], by simp, List.prefix_rfl, fun _ => rfl, rfl, rfl, rfl, rfl⟩
  | broken => cases ended
  | @stopped kind kinds events result head =>
    cases ended
    refine ⟨[⟨kind, events, result, false⟩], ?_⟩
    constructor
    · simpa using head
    · exact ⟨kinds, rfl⟩
    · simp
    all_goals simp
  | @goesOn kind kinds events later first outcome head _ ih =>
    obtain ⟨rest, tail, rfl⟩ := Option.map_eq_some_iff.mp ended
    obtain ⟨turns, all⟩ := ih tail
    refine ⟨⟨kind, events, first, true⟩ :: turns, ?_⟩
    constructor
    · exact List.forall_mem_cons.mpr ⟨head, all.swept⟩
    · exact (List.prefix_cons_inj kind).mpr all.inOrder
    · intro going
      exact congrArg (kind :: ·) (all.complete fun turn member =>
        going turn (List.mem_cons_of_mem _ member))
    · rw [List.flatMap_cons, ← all.asked]
    · rw [List.flatMap_cons, ← all.records]
      rfl
    · rw [List.flatMap_cons, ← all.issues]
      rfl
    · rw [List.map_cons, List.sum_cons, ← all.emptyListings]
      rfl

namespace Turns

variable {result : UnitResult} {turns : List Turn} {turn : Turn}

theorem events_subset (all : Turns unit request kinds events result turns) (member : turn ∈ turns) :
    turn.events ⊆ events := by
  intro event inside
  rw [all.asked]
  exact List.mem_flatMap.mpr ⟨turn, member, inside⟩

theorem records_subset (all : Turns unit request kinds events result turns) (member : turn ∈ turns) :
    turn.result.records ⊆ result.records := by
  intro record inside
  rw [all.records]
  exact List.mem_flatMap.mpr ⟨turn, member, inside⟩

theorem issues_subset (all : Turns unit request kinds events result turns) (member : turn ∈ turns) :
    turn.result.issues ⊆ result.issues := by
  intro issue inside
  rw [all.issues]
  exact List.mem_flatMap.mpr ⟨turn, member, inside⟩

theorem kinds_eq (all : Turns unit request kinds events result turns)
    (quiet : ∀ event ∈ events, event.isFailedWait = false) : turns.map (·.kind) = kinds := by
  refine all.complete fun turn member => ?_
  rw [(all.swept turn member).goesOn_eq.1]
  refine List.all_eq_true.mpr fun event inside => ?_
  rw [quiet event (all.events_subset member inside)]
  rfl

end Turns

end WorkUnit

theorem Move.Fits.mono {behaviour wider : Behaviour}
    (within : ∀ call answer, behaviour call answer → wider call answer) {move : Move}
    (fits : move.Fits behaviour) : move.Fits wider := by
  cases move with
  | ask _ answer => exact fun call => within call (answer call) (fits call)
  | take | send | receive => trivial

namespace Pool

variable {behaviour : Behaviour} {request : Request} {pool : Pool} {unit : WorkUnit} {event : Event}

theorem Reached.mono {wider : Behaviour}
    (within : ∀ call answer, behaviour call answer → wider call answer)
    (reached : Reached behaviour request pool) : Reached wider request pool := by
  induction reached with
  | start => exact .start
  | move _ fits moved ih => exact .move ih (fits.mono within) moved

theorem Reached.to_any (reached : Reached behaviour request pool) : Reached .any request pool :=
  reached.mono fun _ _ _ => trivial

/-- Where no unit is planned twice, what is asked for a unit comes in the order of its dialogue. -/
theorem Reached.transcript (reached : Reached behaviour request pool)
    (distinct : request.units.Nodup) :
    ∀ job ∈ pool.jobs, (pool.events.filter (·.1 = job.unit)).map (·.2) = job.events := by
  induction reached with
  | start => simp [jobs, Pool.start]
  | @move pool next move before fits moved ih =>
    have accounted := before.accounted
    have apart : (pool.waiting ++ pool.jobs.map (·.unit)).Nodup :=
      accounted.units.nodup_iff.mpr distinct
    cases progress_of_move fits moved with
    | passed waiting events jobs =>
      intro job member
      rw [events]
      exact ih job (jobs.mem_iff.mp member)
    | @begun unit waiting events jobs =>
      intro job member
      rw [events]
      rcases List.mem_cons.mp (jobs.mem_iff.mp member) with rfl | old
      · -- Nothing has been asked for a unit that has just been waiting.
        have fresh : pool.events.filter (·.1 = unit) = [] := by
          refine List.filter_eq_nil_iff.mpr fun entry asked => ?_
          have inside := accounted.events.mem_iff.mp asked
          obtain ⟨job, present, own⟩ := List.mem_flatMap.mp inside
          obtain ⟨event, -, rfl⟩ := List.mem_map.mp own
          have other : unit ≠ job.unit := by
            rw [waiting] at apart
            exact (List.nodup_append.mp apart).2.2 unit List.mem_cons_self job.unit
              (List.mem_map_of_mem present)
          simpa using other.symm
        rw [fresh]
        rfl
      · exact ih job old
    | @asked unit past call answered others answer _ _ events old new =>
      have turns : ((⟨unit, past, .ask call answered⟩ : Worker) :: others).map (·.unit) |>.Nodup :=
        ((old.map (·.unit)).nodup_iff).mp (List.nodup_append.mp apart).2.1
      have alone := (List.nodup_cons.mp turns).1
      intro job member
      rw [events, List.filter_append, List.map_append]
      rcases List.mem_cons.mp (new.mem_iff.mp member) with rfl | other
      · have earlier := ih _ (old.mem_iff.mpr List.mem_cons_self)
        simp only at earlier
        simp [earlier]
      · have different : unit ≠ job.unit := by
          intro same
          rw [same] at alone
          exact alone (List.mem_map_of_mem (f := (·.unit)) other)
        rw [ih job (old.mem_iff.mpr (List.mem_cons_of_mem _ other))]
        simp [different]

theorem Reached.delivery_events (reached : Reached behaviour request pool)
    (distinct : request.units.Nodup) {delivery : Delivery} (done : delivery ∈ pool.received) :
    (pool.events.filter (·.1 = delivery.unit)).map (·.2) = delivery.events := by
  have job : delivery.job ∈ pool.jobs :=
    List.mem_append_right _ (List.mem_map_of_mem (List.mem_append_right _ done))
  exact reached.transcript distinct delivery.job job

theorem mem_own (member : (unit, event) ∈ pool.events) :
    event ∈ (pool.events.filter (·.1 = unit)).map (·.2) := by
  have chosen : (unit, event) ∈ pool.events.filter (·.1 = unit) :=
    List.mem_filter.mpr ⟨member, by simp⟩
  exact List.mem_map_of_mem (f := (·.2)) chosen

theorem Reached.asked (reached : Reached behaviour request pool) {delivery : Delivery}
    (done : delivery ∈ pool.received) (member : event ∈ delivery.events) :
    (delivery.unit, event) ∈ pool.events := by
  refine reached.accounted.events.mem_iff.mpr (List.mem_flatMap.mpr ⟨delivery.job, ?_, ?_⟩)
  · exact List.mem_append_right _ (List.mem_map_of_mem (List.mem_append_right _ done))
  · exact List.mem_map_of_mem (f := (delivery.unit, ·)) member

theorem Reached.events_perm (reached : Reached behaviour request pool)
    (finished : pool.isFinished = true) :
    pool.events.Perm
      (pool.received.flatMap fun delivery => delivery.events.map (delivery.unit, ·)) := by
  have events := reached.accounted.events
  rw [(jobs_of_isFinished finished).2, List.flatMap_map] at events
  exact events

end Pool
end Retention
