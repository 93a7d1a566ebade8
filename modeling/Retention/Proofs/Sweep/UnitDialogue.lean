import Retention.Proofs.Sweep.Dialogue

/-!
The dialogues of a unit, written out: which questions it asks for each kind, in which order, and what
the answers make of its records. `ends_sweep_iff` says that there are no others.
-/
namespace Retention
namespace WorkUnit

open Retention.Task

/-- The question for the resources of a kind, with its answer. -/
def listing (unit : WorkUnit) (kind : Kind) (answer : Except ListingError (List Listed)) : Event :=
  ⟨.list unit.account unit.region kind, answer⟩

/-- The question to carry out what a record asks for, with its answer. -/
def execution (record : Record) (answer : Except ExecutionError Outcome) : Event :=
  ⟨.execute record.verdict.operation record.snapshot, answer⟩

/-- The question to wait for terminated instances, with its answer. -/
def pause (unit : WorkUnit) (ids : List String) (answer : Except ExecutionError Unit) : Event :=
  ⟨.wait unit.account unit.region ids, answer⟩

/-- Records are carried out in their order, each at most once, and only those that change something. -/
inductive CarriedOut (unit : WorkUnit) (kind : Kind) :
    List Record → List Event → List Record → List Issue → Prop
  | nil : CarriedOut unit kind [] [] [] []
  | spared {record : Record} {records done : List Record} {events : List Event}
      {issues : List Issue} (idle : record.verdict.operation.isMutating = false)
      (rest : CarriedOut unit kind records events done issues) :
      CarriedOut unit kind (record :: records) events (record :: done) issues
  | executed {record : Record} {records done : List Record} {events : List Event}
      {issues : List Issue} (mutating : record.verdict.operation.isMutating = true)
      (answer : Except ExecutionError Outcome)
      (rest : CarriedOut unit kind records events done issues) :
      CarriedOut unit kind (record :: records) (execution record answer :: events)
        ((unit.afterExecution kind record answer).1 :: done)
        ((unit.afterExecution kind record answer).2 ++ issues)

/-- What is done with the judged records of a kind: nothing in a dry run; otherwise they are carried
out, and after the instances comes a wait for those that it takes. -/
inductive Handled (unit : WorkUnit) (request : Request) (kind : Kind) (records : List Record) :
    List Event → UnitResult → Bool → Prop
  | dry (dry : request.dryRun = true) : Handled unit request kind records [] ⟨records, [], 0⟩ true
  | applied {done : List Record} {events : List Event} {issues : List Issue}
      (wet : request.dryRun = false) (other : kind ≠ .vmInstance)
      (carried : CarriedOut unit kind records events done issues) :
      Handled unit request kind records events ⟨done, issues, 0⟩ true
  | settled {done : List Record} {events : List Event} {issues : List Issue}
      (wet : request.dryRun = false) (machines : kind = .vmInstance)
      (carried : CarriedOut unit kind records events done issues) (nobody : awaited done = []) :
      Handled unit request kind records events ⟨done, issues, 0⟩ true
  | paused {done : List Record} {events : List Event} {issues : List Issue}
      (wet : request.dryRun = false) (machines : kind = .vmInstance)
      (carried : CarriedOut unit kind records events done issues) (somebody : awaited done ≠ [])
      (answer : Except ExecutionError Unit) :
      Handled unit request kind records (events ++ [unit.pause (awaited done) answer])
        ⟨done, issues ++ (unit.afterWait (awaited done) answer).toList, 0⟩
        (unit.afterWait (awaited done) answer).isNone

/-- Every listed resource has an age, as far as the policy asks for one. -/
def Defined (unit : WorkUnit) (policy : Policy) (now : Instant) (listed : List Listed) : Prop :=
  ∀ one ∈ listed, Rules.isDefined (unit.snapshotOf one) policy now = true

/-- The dialogue of one kind. Nothing comes of it where the age of a listed resource is undefined. -/
inductive SweptKind (unit : WorkUnit) (request : Request) (kind : Kind) :
    List Event → Option (UnitResult × Bool) → Prop
  | unruled (unruled : request.policies kind = none) :
      SweptKind unit request kind [] (some (.empty, true))
  | refused {policy : Policy} (ruled : request.policies kind = some policy)
      (failure : ListingError) :
      SweptKind unit request kind [unit.listing kind (.error failure)]
        (some (⟨[], [unit.issue .listing kind [] failure.message], 0⟩, true))
  | undefined {policy : Policy} {listed : List Listed} (ruled : request.policies kind = some policy)
      (undefined : ¬ unit.Defined policy request.now listed) :
      SweptKind unit request kind [unit.listing kind (.ok listed)] none
  | vacant {policy : Policy} (ruled : request.policies kind = some policy) :
      SweptKind unit request kind [unit.listing kind (.ok [])] (some (⟨[], [], 1⟩, true))
  | judged {policy : Policy} {listed : List Listed} {events : List Event} {result : UnitResult}
      {goesOn : Bool} (ruled : request.policies kind = some policy) (present : listed ≠ [])
      (defined : unit.Defined policy request.now listed)
      (handled : Handled unit request kind (listed.map (unit.recordOf policy request.now)) events
        result goesOn) :
      SweptKind unit request kind (unit.listing kind (.ok listed) :: events) (some (result, goesOn))

/-- The dialogues of the kinds one after the other, until one of them stops the unit. -/
inductive SweptKinds (unit : WorkUnit) (request : Request) :
    List Kind → List Event → Option UnitResult → Prop
  | nil : SweptKinds unit request [] [] (some .empty)
  | broken {kind : Kind} {kinds : List Kind} {events : List Event}
      (head : SweptKind unit request kind events none) :
      SweptKinds unit request (kind :: kinds) events none
  | stopped {kind : Kind} {kinds : List Kind} {events : List Event} {result : UnitResult}
      (head : SweptKind unit request kind events (some (result, false))) :
      SweptKinds unit request (kind :: kinds) events (some result)
  | goesOn {kind : Kind} {kinds : List Kind} {events later : List Event} {result : UnitResult}
      {outcome : Option UnitResult}
      (head : SweptKind unit request kind events (some (result, true)))
      (tail : SweptKinds unit request kinds later outcome) :
      SweptKinds unit request (kind :: kinds) (events ++ later) (outcome.map (result ++ ·))

variable {unit : WorkUnit} {request : Request} {kind : Kind} {events : List Event}

theorem ends_carryOut_iff {record : Record} {outcome : Option (Record × List Issue)} :
    Ends (unit.carryOut kind record) events outcome ↔
      (record.verdict.operation.isMutating = false ∧ events = [] ∧ outcome = some (record, [])) ∨
        (record.verdict.operation.isMutating = true ∧ ∃ answer,
          events = [execution record answer] ∧
            outcome = some (unit.afterExecution kind record answer)) := by
  unfold carryOut
  cases mutating : record.verdict.operation.isMutating with
  | false => simp
  | true =>
    simp only [if_true, bind_eq_bind, pure_eq_done, Task.execute, bind_ask, bind_done, ends_ask_iff,
      ends_done_iff]
    constructor
    · intro found
      obtain ⟨answer, later, rfl, rfl, rfl⟩ := found
      exact .inr ⟨trivial, answer, rfl, rfl⟩
    · intro found
      rcases found with ⟨none, -⟩ | ⟨-, answer, rfl, rfl⟩
      · cases none
      · exact ⟨answer, [], rfl, rfl, rfl⟩

theorem ends_carryOutAll_iff {records : List Record} {outcome : Option (List Record × List Issue)} :
    Ends (unit.carryOutAll kind records) events outcome ↔
      ∃ done issues, outcome = some (done, issues) ∧
        CarriedOut unit kind records events done issues := by
  induction records generalizing events outcome with
  | nil =>
    simp only [carryOutAll, pure_eq_done, ends_done_iff]
    constructor
    · intro found
      obtain ⟨rfl, rfl⟩ := found
      exact ⟨[], [], rfl, .nil⟩
    · intro found
      obtain ⟨done, issues, rfl, carried⟩ := found
      cases carried
      exact ⟨rfl, rfl⟩
  | cons record records ih =>
    simp only [carryOutAll, bind_eq_bind, pure_eq_done, ends_bind_iff, ends_carryOut_iff, ih,
      ends_done_iff]
    constructor
    · intro found
      rcases found with ⟨(⟨-, -, none⟩ | ⟨-, answer, -, none⟩), -⟩ |
        ⟨before, after, value, rfl, first, rest⟩
      · cases none
      · cases none
      · rcases rest with ⟨⟨done, issues, none, -⟩, -⟩ |
          ⟨middle, last, value', rfl, ⟨done, issues, same, carried⟩, rfl, rfl⟩
        · cases none
        · cases same
          rcases first with ⟨idle, rfl, same⟩ | ⟨mutating, answer, rfl, same⟩
          · cases same
            exact ⟨record :: done, issues, by simp, by simpa using .spared idle carried⟩
          · cases same
            exact ⟨_, _, rfl, by simpa using .executed mutating answer carried⟩
    · intro found
      obtain ⟨done, issues, rfl, carried⟩ := found
      cases carried with
      | spared idle rest =>
        exact .inr ⟨[], events, _, rfl, .inl ⟨idle, rfl, rfl⟩,
          .inr ⟨events, [], _, by simp, ⟨_, _, rfl, rest⟩, rfl, rfl⟩⟩
      | @executed _ _ _ events _ mutating answer rest =>
        exact .inr ⟨[execution record answer], events, _, rfl, .inr ⟨mutating, answer, rfl, rfl⟩,
          .inr ⟨events, [], _, by simp, ⟨_, _, rfl, rest⟩, rfl, rfl⟩⟩

theorem ends_settle_iff {records : List Record} {outcome : Option (Option Issue)} :
    Ends (unit.settle records) events outcome ↔
      (awaited records = [] ∧ events = [] ∧ outcome = some none) ∨
        (awaited records ≠ [] ∧ ∃ answer, events = [unit.pause (awaited records) answer] ∧
          outcome = some (unit.afterWait (awaited records) answer)) := by
  unfold settle
  by_cases nobody : awaited records = []
  · simp [nobody]
  · have present : (awaited records).isEmpty = false := by simpa using nobody
    simp only [present, Bool.false_eq_true, if_false, bind_eq_bind, pure_eq_done, Task.wait, bind_ask,
      bind_done, ends_ask_iff, ends_done_iff]
    constructor
    · intro found
      obtain ⟨answer, later, rfl, rfl, rfl⟩ := found
      exact .inr ⟨nobody, answer, rfl, rfl⟩
    · intro found
      rcases found with ⟨empty, -⟩ | ⟨-, answer, rfl, rfl⟩
      · exact absurd empty nobody
      · exact ⟨answer, [], rfl, rfl, rfl⟩

theorem ends_handle_iff {records : List Record} {outcome : Option (UnitResult × Bool)} :
    Ends (unit.handle request kind records) events outcome ↔
      ∃ result goesOn, outcome = some (result, goesOn) ∧
        Handled unit request kind records events result goesOn := by
  unfold handle
  cases mode : request.dryRun with
  | true =>
    simp only [if_true, pure_eq_done, ends_done_iff]
    constructor
    · intro found
      obtain ⟨rfl, rfl⟩ := found
      exact ⟨_, _, rfl, .dry mode⟩
    · intro found
      obtain ⟨result, goesOn, rfl, handled⟩ := found
      cases handled with
      | dry => exact ⟨rfl, rfl⟩
      | applied wet | settled wet | paused wet => simp [mode] at wet
  | false =>
    simp only [Bool.false_eq_true, if_false, bind_eq_bind, pure_eq_done, ends_bind_iff,
      ends_carryOutAll_iff]
    by_cases machines : kind = .vmInstance
    · simp only [machines, if_true, ends_bind_iff, ends_settle_iff, ends_done_iff]
      constructor
      · intro found
        rcases found with ⟨⟨done, issues, none, -⟩, -⟩ |
          ⟨before, after, value, rfl, ⟨done, issues, same, carried⟩, rest⟩
        · cases none
        · cases same
          rcases rest with ⟨(⟨-, -, none⟩ | ⟨-, answer, -, none⟩), -⟩ |
            ⟨middle, last, unsettled, rfl, settled, rfl, rfl⟩
          · cases none
          · cases none
          · rcases settled with ⟨nobody, rfl, same⟩ | ⟨somebody, answer, rfl, same⟩
            · cases same
              exact ⟨_, _, rfl, by simpa using .settled mode rfl carried nobody⟩
            · cases same
              exact ⟨_, _, rfl, by simpa using .paused mode rfl carried somebody answer⟩
      · intro found
        obtain ⟨result, goesOn, rfl, handled⟩ := found
        cases handled with
        | dry dry => simp [mode] at dry
        | applied _ other => exact absurd rfl other
        | settled _ _ carried nobody =>
          exact .inr ⟨events, [], _, by simp, ⟨_, _, rfl, carried⟩,
            .inr ⟨[], [], _, rfl, .inl ⟨nobody, rfl, rfl⟩, rfl, by simp⟩⟩
        | @paused done events issues _ _ carried somebody answer =>
          exact .inr ⟨events, _, _, rfl, ⟨_, _, rfl, carried⟩,
            .inr ⟨_, [], _, by simp, .inr ⟨somebody, answer, rfl, rfl⟩, rfl, rfl⟩⟩
    · simp only [machines, if_false, ends_done_iff]
      constructor
      · intro found
        rcases found with ⟨⟨done, issues, none, -⟩, -⟩ |
          ⟨before, after, value, rfl, ⟨done, issues, same, carried⟩, rfl, rfl⟩
        · cases none
        · cases same
          exact ⟨_, _, rfl, by simpa using .applied mode machines carried⟩
      · intro found
        obtain ⟨result, goesOn, rfl, handled⟩ := found
        cases handled with
        | dry dry => simp [mode] at dry
        | applied _ _ carried =>
          exact .inr ⟨events, [], _, by simp, ⟨_, _, rfl, carried⟩, rfl, rfl⟩
        | settled _ equal | paused _ equal => exact absurd equal machines

theorem mapM_judge_eq {policy : Policy} {now : Instant} {listed : List Listed}
    (defined : unit.Defined policy now listed) :
    listed.mapM (unit.judge policy now) = some (listed.map (unit.recordOf policy now)) := by
  induction listed with
  | nil => rfl
  | cons one listed ih =>
    have first := defined one (by simp)
    have rest := ih fun other member => defined other (by simp [member])
    simp [List.mapM_cons, judge, first, rest]

theorem mapM_judge_eq_none {policy : Policy} {now : Instant} {listed : List Listed}
    (undefined : ¬ unit.Defined policy now listed) :
    listed.mapM (unit.judge policy now) = none := by
  induction listed with
  | nil => exact absurd (by simp [Defined]) undefined
  | cons one listed ih =>
    cases first : Rules.isDefined (unit.snapshotOf one) policy now with
    | false => simp [List.mapM_cons, judge, first]
    | true =>
      have rest : ¬ unit.Defined policy now listed := by
        intro defined
        apply undefined
        simpa [Defined, first] using defined
      simp [List.mapM_cons, judge, first, ih rest]

theorem ends_sweepKind_iff {outcome : Option (UnitResult × Bool)} :
    Ends (unit.sweepKind request kind) events outcome ↔
      SweptKind unit request kind events outcome := by
  unfold sweepKind
  cases ruled : request.policies kind with
  | none =>
    simp only [pure_eq_done, ends_done_iff]
    constructor
    · intro found
      obtain ⟨rfl, rfl⟩ := found
      exact .unruled ruled
    · intro swept
      cases swept with
      | unruled => exact ⟨rfl, rfl⟩
      | refused other | undefined other | vacant other | judged other => simp [ruled] at other
  | some policy =>
    simp only [bind_eq_bind, Task.list, bind_ask, bind_done, ends_ask_iff]
    constructor
    · intro found
      obtain ⟨answer, later, rfl, ends⟩ := found
      cases answer with
      | error failure =>
        obtain ⟨rfl, rfl⟩ := ends_done_iff.mp ends
        exact .refused ruled failure
      | ok listed =>
        by_cases defined : unit.Defined policy request.now listed
        · cases listed with
          | nil =>
            obtain ⟨rfl, rfl⟩ := ends_done_iff.mp ends
            exact .vacant ruled
          | cons one listed =>
            simp only [mapM_judge_eq defined, List.map_cons, ends_handle_iff] at ends
            obtain ⟨result, goesOn, rfl, handled⟩ := ends
            exact .judged ruled (by simp) defined handled
        · simp only [mapM_judge_eq_none defined, ends_abort_iff] at ends
          obtain ⟨rfl, rfl⟩ := ends
          exact .undefined ruled defined
    · intro swept
      cases swept with
      | unruled other => simp [ruled] at other
      | refused _ failure => exact ⟨.error failure, [], rfl, .done _⟩
      | @undefined other listed same undefined =>
        cases ruled.symm.trans same
        exact ⟨.ok listed, [], rfl, by simp [mapM_judge_eq_none undefined]⟩
      | vacant => exact ⟨.ok [], [], rfl, .done _⟩
      | @judged other listed events result goesOn same present defined handled =>
        cases ruled.symm.trans same
        refine ⟨.ok listed, events, rfl, ?_⟩
        cases listed with
        | nil => exact absurd rfl present
        | cons one listed =>
          simp only [mapM_judge_eq defined, List.map_cons, ends_handle_iff]
          exact ⟨result, goesOn, rfl, handled⟩

theorem ends_sweepKinds_iff {kinds : List Kind} {outcome : Option UnitResult} :
    Ends (unit.sweepKinds request kinds) events outcome ↔
      SweptKinds unit request kinds events outcome := by
  induction kinds generalizing events outcome with
  | nil =>
    simp only [sweepKinds, pure_eq_done, ends_done_iff]
    constructor
    · intro found
      obtain ⟨rfl, rfl⟩ := found
      exact .nil
    · intro swept
      cases swept
      exact ⟨rfl, rfl⟩
  | cons kind kinds ih =>
    simp only [sweepKinds, bind_eq_bind, pure_eq_done, ends_bind_iff, ends_sweepKind_iff]
    constructor
    · intro found
      rcases found with ⟨head, rfl⟩ | ⟨before, after, ⟨result, goesOn⟩, rfl, head, rest⟩
      · exact .broken head
      · cases goesOn with
        | false =>
          obtain ⟨rfl, rfl⟩ := ends_done_iff.mp rest
          simpa using .stopped head
        | true =>
          simp only [if_true, ends_bind_iff, ends_done_iff, ih] at rest
          rcases rest with ⟨tail, rfl⟩ | ⟨middle, last, value, rfl, tail, rfl, rfl⟩
          · exact .goesOn head tail
          · simpa using .goesOn head tail
    · intro swept
      cases swept with
      | broken head => exact .inl ⟨head, rfl⟩
      | stopped head => exact .inr ⟨events, [], _, by simp, head, .done _⟩
      | @goesOn _ _ first later result outcome head tail =>
        refine .inr ⟨first, later, _, rfl, head, ?_⟩
        simp only [if_true, ends_bind_iff, ends_done_iff, ih]
        cases outcome with
        | none => exact .inl ⟨tail, rfl⟩
        | some value => exact .inr ⟨later, [], value, by simp, tail, rfl, rfl⟩

/-- A unit has these dialogues and no others. -/
theorem ends_sweep_iff {outcome : Option UnitResult} :
    Ends (unit.sweep request) events outcome ↔
      SweptKinds unit request unit.kinds events outcome := ends_sweepKinds_iff

end WorkUnit
end Retention
