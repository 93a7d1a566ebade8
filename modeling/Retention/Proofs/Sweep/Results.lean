import Retention.Proofs.Sweep.Executions

/-!
What the result of a unit holds. Its records are those of listed resources, of the unit's account and
region and, where listings hold what was asked for, of its kinds; so are its issues. A dry run has the
record of every resource that it has listed.
-/
namespace Retention

/-- The id that a record has at its provider. -/
def Listed.id : Listed → String
  | .vmInstance record => record.instanceId
  | .volume record => record.volumeId
  | .image record => record.imageId
  | .snapshot record => record.snapshotId
  | .securityGroup record _ => record.groupId
  | .dbInstance record => record.identifier
  | .dbSnapshot record => record.identifier
  | .bucket record => record.name
  | .resourceGroup record => record.name

namespace WorkUnit

variable {unit : WorkUnit} {request : Request} {kind : Kind} {kinds : List Kind}
  {events : List Event} {result : UnitResult}

/-- The listings of the dialogue hold resources of the kinds that were asked for. -/
def ListsAskedKinds (unit : WorkUnit) (events : List Event) : Prop :=
  ∀ kind listed, unit.listing kind (.ok listed) ∈ events → ∀ one ∈ listed, one.kind = kind

theorem kind_snapshotOf (one : Listed) : (unit.snapshotOf one).kind = one.kind := by
  cases one <;> rfl

theorem account_snapshotOf (one : Listed) : (unit.snapshotOf one).account = unit.account := by
  cases one <;> rfl

theorem region_snapshotOf (one : Listed) : (unit.snapshotOf one).region = unit.region := by
  cases one <;> rfl

theorem id_snapshotOf (one : Listed) : (unit.snapshotOf one).id = one.id := by
  cases one <;> rfl

/-- What a record of a result goes back to. -/
inductive Recorded (unit : WorkUnit) (request : Request) (kinds : List Kind) (events : List Event)
    (record : Record) : Prop
  | intro {kind : Kind} {policy : Policy} {listed : List Listed} {one : Listed}
      (planned : kind ∈ kinds) (ruled : request.policies kind = some policy)
      (answered : unit.listing kind (.ok listed) ∈ events) (present : one ∈ listed)
      (same : record.snapshot = unit.snapshotOf one)
      (untouched : request.dryRun = true → record = unit.recordOf policy request.now one)

theorem Recorded.mono {others : List Kind} {more : List Event} {record : Record}
    (recorded : Recorded unit request kinds events record) (wider : kinds ⊆ others)
    (longer : events ⊆ more) : Recorded unit request others more record := by
  obtain ⟨planned, ruled, answered, present, same, untouched⟩ := recorded
  exact ⟨wider planned, ruled, longer answered, present, same, untouched⟩

theorem Recorded.account {record : Record} (recorded : Recorded unit request kinds events record) :
    record.snapshot.account = unit.account := by
  obtain ⟨-, -, -, -, same, -⟩ := recorded
  rw [same, account_snapshotOf]

theorem Recorded.region {record : Record} (recorded : Recorded unit request kinds events record) :
    record.snapshot.region = unit.region := by
  obtain ⟨-, -, -, -, same, -⟩ := recorded
  rw [same, region_snapshotOf]

theorem Recorded.kind_mem {record : Record} (recorded : Recorded unit request kinds events record)
    (asked : unit.ListsAskedKinds events) : record.kind ∈ kinds := by
  obtain ⟨planned, -, answered, present, same, -⟩ := recorded
  rw [Record.kind, same, kind_snapshotOf, asked _ _ answered _ present]
  exact planned

theorem afterExecution_snapshot (record : Record) (answer : Except ExecutionError Outcome) :
    (unit.afterExecution kind record answer).1.snapshot = record.snapshot := by
  cases answer with
  | ok => rfl
  | error failure => cases benign : failure.isBenign <;> simp [afterExecution, benign]

theorem CarriedOut.snapshots {records done : List Record} {issues : List Issue}
    (carried : CarriedOut unit kind records events done issues) :
    done.map (·.snapshot) = records.map (·.snapshot) := by
  induction carried with
  | nil => rfl
  | spared _ _ ih => rw [List.map_cons, List.map_cons, ih]
  | executed _ answer _ ih => rw [List.map_cons, List.map_cons, ih, afterExecution_snapshot]

theorem Handled.snapshots {records : List Record} {goesOn : Bool}
    (handled : Handled unit request kind records events result goesOn) :
    result.records.map (·.snapshot) = records.map (·.snapshot) := by
  cases handled with
  | dry => rfl
  | applied _ _ carried | settled _ _ carried | paused _ _ carried => exact carried.snapshots

theorem Handled.of_dry {records : List Record} {goesOn : Bool}
    (handled : Handled unit request kind records events result goesOn)
    (dry : request.dryRun = true) : result.records = records ∧ goesOn = true := by
  cases handled with
  | dry => exact ⟨rfl, rfl⟩
  | applied wet | settled wet | paused wet => simp [dry] at wet

theorem SweptKind.recorded {goesOn : Bool}
    (swept : SweptKind unit request kind events (some (result, goesOn))) {record : Record}
    (member : record ∈ result.records) : Recorded unit request [kind] events record := by
  cases swept with
  | unruled | refused | vacant => cases member
  | judged ruled _ _ handled =>
    cases mode : request.dryRun with
    | true =>
      rw [(handled.of_dry mode).1] at member
      obtain ⟨one, present, rfl⟩ := List.mem_map.mp member
      exact ⟨List.mem_cons_self, ruled, List.mem_cons_self, present, rfl, fun _ => rfl⟩
    | false =>
      have inside := List.mem_map_of_mem (f := (·.snapshot)) member
      rw [handled.snapshots] at inside
      obtain ⟨record', judged, same⟩ := List.mem_map.mp inside
      obtain ⟨one, present, rfl⟩ := List.mem_map.mp judged
      exact ⟨List.mem_cons_self, ruled, List.mem_cons_self, present, same.symm, by simp [mode]⟩

/-- Every record of a unit is that of a resource that the unit has listed. -/
theorem SweptKinds.recorded {outcome : Option UnitResult}
    (swept : SweptKinds unit request kinds events outcome) (ended : outcome = some result)
    {record : Record} (member : record ∈ result.records) :
    Recorded unit request kinds events record := by
  induction swept generalizing result with
  | nil =>
    cases ended
    cases member
  | broken => cases ended
  | stopped head =>
    cases ended
    exact (head.recorded member).mono (by simp) (by simp)
  | goesOn head _ ih =>
    obtain ⟨rest, tail, rfl⟩ := Option.map_eq_some_iff.mp ended
    rcases List.mem_append.mp member with first | later
    · exact (head.recorded first).mono (by simp) (by simp)
    · exact (ih tail later).mono (by simp) (by simp)

/-- Where an issue belongs. -/
def Concerns (unit : WorkUnit) (kinds : List Kind) (issue : Issue) : Prop :=
  issue.account = unit.account ∧ issue.region = unit.region ∧ issue.resourceKind ∈ kinds

theorem CarriedOut.issues_concern {records done : List Record} {issues : List Issue}
    (carried : CarriedOut unit kind records events done issues) :
    ∀ issue ∈ issues, unit.Concerns [kind] issue := by
  induction carried with
  | nil => simp
  | spared _ _ ih => exact ih
  | executed _ answer _ ih =>
    intro issue member
    rcases List.mem_append.mp member with first | later
    · cases answer with
      | ok => cases first
      | error failure =>
        cases benign : failure.isBenign with
        | true => simp [afterExecution, benign] at first
        | false =>
          simp only [afterExecution, benign, Bool.false_eq_true, if_false,
            List.mem_singleton] at first
          rw [first]
          exact ⟨rfl, rfl, List.mem_cons_self⟩
    · exact ih issue later

theorem SweptKind.issues_concern {goesOn : Bool}
    (swept : SweptKind unit request kind events (some (result, goesOn))) :
    ∀ issue ∈ result.issues, unit.Concerns [kind] issue := by
  cases swept with
  | unruled | vacant => simp [UnitResult.empty]
  | refused =>
    intro issue member
    rw [List.mem_singleton.mp member]
    exact ⟨rfl, rfl, List.mem_cons_self⟩
  | judged _ _ _ handled =>
    cases handled with
    | dry => simp
    | applied _ _ carried | settled _ _ carried => exact carried.issues_concern
    | paused _ machines carried _ answer =>
      intro issue member
      rcases List.mem_append.mp member with first | later
      · exact carried.issues_concern issue first
      · cases answer with
        | ok => cases later
        | error failure =>
          rw [List.mem_singleton.mp later]
          exact ⟨rfl, rfl, List.mem_singleton.mpr machines.symm⟩

theorem SweptKinds.issues_concern {outcome : Option UnitResult}
    (swept : SweptKinds unit request kinds events outcome) (ended : outcome = some result) :
    ∀ issue ∈ result.issues, unit.Concerns kinds issue := by
  induction swept generalizing result with
  | nil =>
    cases ended
    simp [UnitResult.empty]
  | broken => cases ended
  | stopped head =>
    cases ended
    intro issue member
    obtain ⟨account, region, turn⟩ := head.issues_concern issue member
    exact ⟨account, region, by simp_all⟩
  | goesOn head _ ih =>
    obtain ⟨rest, tail, rfl⟩ := Option.map_eq_some_iff.mp ended
    intro issue member
    rcases List.mem_append.mp member with first | later
    · obtain ⟨account, region, turn⟩ := head.issues_concern issue first
      exact ⟨account, region, by simp_all⟩
    · obtain ⟨account, region, turn⟩ := ih tail issue later
      exact ⟨account, region, List.mem_cons_of_mem _ turn⟩

theorem SweptKind.records_all {lister : Lister} {goesOn : Bool}
    (swept : SweptKind unit request kind events (some (result, goesOn)))
    (allowed : (Behaviour.listing lister).Allows events) (dry : request.dryRun = true)
    {policy : Policy} (ruled : request.policies kind = some policy) {listed : List Listed}
    (answered : lister unit.account unit.region kind = .ok listed) {one : Listed}
    (present : one ∈ listed) : unit.recordOf policy request.now one ∈ result.records := by
  have served (answer : Except ListingError (List Listed))
      (asked : unit.listing kind answer ∈ events) : answer = .ok listed :=
    (allowed _ asked).trans answered
  cases swept with
  | unruled unruled => simp [ruled] at unruled
  | refused _ failure => cases served _ List.mem_cons_self
  | vacant =>
    cases served _ List.mem_cons_self
    cases present
  | judged ruled' _ _ handled =>
    cases served _ List.mem_cons_self
    cases ruled.symm.trans ruled'
    rw [(handled.of_dry dry).1]
    exact List.mem_map_of_mem present

theorem SweptKind.goesOn_of_dry {goesOn : Bool}
    (swept : SweptKind unit request kind events (some (result, goesOn)))
    (dry : request.dryRun = true) : goesOn = true := by
  cases swept with
  | unruled | refused | vacant => rfl
  | judged _ _ _ handled => exact (handled.of_dry dry).2

/-- A dry run records every resource that it lists under a kind of the unit. -/
theorem SweptKinds.records_all {lister : Lister} {outcome : Option UnitResult}
    (swept : SweptKinds unit request kinds events outcome) (ended : outcome = some result)
    (allowed : (Behaviour.listing lister).Allows events) (dry : request.dryRun = true)
    {policy : Policy} (planned : kind ∈ kinds) (ruled : request.policies kind = some policy)
    {listed : List Listed} (answered : lister unit.account unit.region kind = .ok listed)
    {one : Listed} (present : one ∈ listed) :
    unit.recordOf policy request.now one ∈ result.records := by
  induction swept generalizing result with
  | nil => cases planned
  | broken => cases ended
  | stopped head => cases head.goesOn_of_dry dry
  | goesOn head _ ih =>
    obtain ⟨rest, tail, rfl⟩ := Option.map_eq_some_iff.mp ended
    obtain ⟨first, second⟩ := Behaviour.allows_append.mp allowed
    rcases List.mem_cons.mp planned with rfl | later
    · exact List.mem_append_left _ (head.records_all first dry ruled answered present)
    · exact List.mem_append_right _ (ih tail second later)

/-- A unit without a result has listed a resource whose age is undefined. -/
theorem SweptKinds.undefined {outcome : Option UnitResult}
    (swept : SweptKinds unit request kinds events outcome) (broken : outcome = none) :
    ∃ kind ∈ kinds, ∃ policy listed, request.policies kind = some policy ∧
      unit.listing kind (.ok listed) ∈ events ∧ ¬ unit.Defined policy request.now listed := by
  induction swept with
  | nil | stopped => cases broken
  | @broken kind _ _ head =>
    cases head with
    | undefined ruled undefined =>
      exact ⟨kind, List.mem_cons_self, _, _, ruled, List.mem_cons_self, undefined⟩
  | goesOn _ _ ih =>
    obtain ⟨kind, turn, policy, listed, ruled, answered, undefined⟩ :=
      ih (Option.map_eq_none_iff.mp broken)
    exact ⟨kind, List.mem_cons_of_mem _ turn, policy, listed, ruled,
      List.mem_append_right _ answered, undefined⟩

end WorkUnit
end Retention
