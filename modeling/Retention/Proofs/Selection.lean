import Retention.Proofs.Application
import Retention.Proofs.Policies
import Retention.Proofs.Preview
import Retention.Proofs.Regions
import Retention.Proofs.Sweep.Isolation
import Retention.Proofs.Sweep.Uniqueness
import Retention.Proofs.Targets

/-!
What a command line selects. Regions and targets are free texts, with blanks, repeats and several names
for one kind; what comes of them names nothing twice, and there is a policy for each kind that it names.
So an application acts on no resource twice.
-/
namespace Retention

theorem CommandLine.Found.accounts_nodup {accounts : List Account}
    (chosen : accounts ∈ accountChoices.map (·.2)) : accounts.Nodup := by
  have each : ∀ accounts ∈ accountChoices.map (·.2), accounts.Nodup := by decide
  exact each accounts chosen

namespace Request

/-- A request that names nothing twice, and has policies for its kinds alone. -/
structure Orderly (request : Request) : Prop where
  accounts : request.accounts.Nodup
  regions : request.regions.Nodup
  known : ∀ region ∈ request.regions, region ∈ Region.known
  kinds : request.kinds.Pairwise (· < ·)
  ruled : ∀ kind, (request.policies kind).isSome = true ↔ kind ∈ request.kinds

variable {σ : Type} {request : Request} {hasExecutor : Bool} {world : σ}
  {answer : (call : Call) → StateM σ call.Answer}

theorem undefinedAge_of_runUnits {units : List WorkUnit} {failure : SweepError}
    (failed : (perform (request.runUnits answer units) world).1 = .error failure) :
    failure = .undefinedAge := by
  induction units generalizing world with
  | nil => cases failed
  | cons unit units ih =>
    rw [runUnits, perform_bind] at failed
    cases swept : (perform ((unit.sweep request).run answer) world).1 with
    | none =>
      rw [swept] at failed
      cases failed
      rfl
    | some result =>
      rw [swept] at failed
      simp only [perform_bind, perform_pure] at failed
      cases rest : (perform (request.runUnits answer units)
          (perform ((unit.sweep request).run answer) world).2).1 with
      | error other =>
        rw [rest] at failed
        cases failed
        exact ih rest
      | ok others =>
        rw [rest] at failed
        cases failed

/-- A run complains about a kind only if the kind is asked for and has no policy. -/
theorem missing_of_run {kind : Kind}
    (failed : (perform (request.run hasExecutor answer) world).1 = .error (.policyMissing kind)) :
    kind ∈ request.kinds ∧ request.policies kind = none := by
  unfold run at failed
  cases ready : request.check hasExecutor with
  | error failure =>
    rw [ready] at failed
    cases failed
    unfold check at ready
    split at ready
    · rename_i found
      cases ready
      exact ⟨List.mem_of_find?_eq_some found, by simpa using List.find?_some found⟩
    · split at ready <;> cases ready
  | ok =>
    rw [ready] at failed
    simp only [perform_bind, perform_pure] at failed
    cases swept : (perform (request.runUnits answer request.units) world).1 with
    | error failure =>
      rw [swept, undefinedAge_of_runUnits swept] at failed
      cases failed
    | ok delivered =>
      rw [swept] at failed
      cases failed

theorem Orderly.not_missing (orderly : request.Orderly) (kind : Kind) :
    (perform (request.run hasExecutor answer) world).1 ≠ .error (.policyMissing kind) := by
  intro failed
  obtain ⟨asked, none⟩ := missing_of_run failed
  have ruled := (orderly.ruled kind).mpr asked
  rw [none] at ruled
  cases ruled

end Request

/-- Where the targets and the settings are accepted, they make an orderly request. Its sweep lacks no
policy and plans nothing twice, and however it is carried out, no resource is acted on twice. -/
theorem Program.Context.request_acts_once {settings : Settings} {accounts : List Account}
    (chosen : accounts ∈ CommandLine.Found.accountChoices.map (·.2)) {words : List String}
    {kinds : List Kind} (resolved : Target.resolve words = .ok kinds) {policies : PolicyTable}
    (ruled : settings.resolvePolicies kinds = .ok policies) (dryRun : Bool) (now : Instant) :
    ∃ made, Program.Context.request settings accounts kinds dryRun now = .ok made ∧
      made.accounts = accounts ∧ made.regions = settings.resolveRegions.1 ∧ made.kinds = kinds ∧
      made.policies = policies ∧ made.dryRun = dryRun ∧ made.Orderly ∧
      (∀ (σ : Type) hasExecutor (answer : (call : Call) → StateM σ call.Answer) world kind,
        (perform (made.run hasExecutor answer) world).1 ≠ .error (.policyMissing kind)) ∧
      (made.units.flatMap WorkUnit.sites).Nodup ∧
      ∀ capture : Capture, capture.lister.UniqueIds →
        ∀ pool, Pool.Reached (.listing capture.lister) made pool →
          (affected (pool.events.map (·.2))).Nodup := by
  let made : Request :=
    ⟨accounts, settings.resolveRegions.1, kinds, policies, dryRun, settings.workers.toNat, now⟩
  have made_eq : Program.Context.request settings accounts kinds dryRun now = .ok made := by
    unfold Program.Context.request
    rw [ruled]
    rfl
  have orderly : made.Orderly :=
    { accounts := CommandLine.Found.accounts_nodup chosen
      regions := Settings.resolveRegions_nodup
      known := fun _ => Settings.known_of_mem_resolveRegions
      kinds := Kind.all_ascending.sublist (Target.resolve_sublist resolved)
      ruled := Settings.isSome_resolvePolicies ruled }
  have apart : made.sites.Nodup := Request.sites_nodup orderly.accounts orderly.regions
  refine ⟨made, made_eq, rfl, rfl, rfl, rfl, rfl, orderly, ?_, ?_, ?_⟩
  · exact fun _ _ _ _ kind => orderly.not_missing kind
  · rw [Request.units_sites]
    exact apart
  · exact fun capture unique pool reached =>
      reached.affected_nodup Capture.lister_listsKinds unique apart

/-- Regions with repeats, blanks and a name that is none, and a kind under another name. -/
def Settings.untidy : Settings :=
  { regions := ["us-east-1", " us-east-1\t", "", "atlantis", "eu-west-1", "us-east-1"]
    kinds := Dictionary.empty.insert "EBS" ⟨some "KeepTag", none⟩ }

theorem Capture.ofAccounts_uniqueIds : Capture.ofAccounts.lister.UniqueIds := by
  intro account region kind listed answered
  let captured : RegionCapture := ⟨[⟨[.untagged]⟩], [.untagged], [], [], [], [], []⟩
  have unique : ((captured.list kind).map Listed.id).Nodup := by
    cases kind <;> decide
  have content : Capture.ofAccounts.account? account =
      some ⟨Dictionary.empty.insert "us-east-1" captured, [], []⟩ := by
    cases account <;> rfl
  have regional : ((((Dictionary.empty.insert "us-east-1" captured).get? region).map
      (·.list kind)).getD []).map Listed.id |>.Nodup := by
    rw [Dictionary.get?_insert]
    split
    · exact unique
    · exact List.nodup_nil
  rw [lister, content] at answered
  cases kind with
  | bucket | resourceGroup =>
    cases answered
    exact List.nodup_nil
  | _ =>
    cases answered
    exact regional

private theorem eq_ok_of_toOption {ε α : Type} {result : Except ε α} {value : α}
    (found : result.toOption = some value) : result = .ok value := by
  cases result with
  | error => cases found
  | ok => exact congrArg _ (Option.some.inj found)

/-- Two accounts, and texts that name one region thrice and one kind four times. -/
theorem Program.Context.request_acts_once_untidy :
    let words := ["EC2", "ec2_ebs", " Instance ", "ebs"]
    let lister := Capture.ofAccounts.lister
    ∃ policies made pool,
      [Account.main, .second] ∈ CommandLine.Found.accountChoices.map (·.2) ∧
      Target.resolve words = .ok [.vmInstance, .volume] ∧
      Settings.untidy.resolvePolicies [.vmInstance, .volume] = .ok policies ∧
      Program.Context.request .untidy [.main, .second] [.vmInstance, .volume] false .noon =
        .ok made ∧
      lister.UniqueIds ∧ Pool.Reached (.listing lister) made pool ∧ pool.isFinished = true ∧
      affected (pool.events.map (·.2)) =
        [((.main, "us-east-1", .vmInstance), "i-1"), ((.main, "us-east-1", .volume), "vol-1"),
          ((.second, "us-east-1", .vmInstance), "i-1"),
          ((.second, "us-east-1", .volume), "vol-1")] ∧
      made.Orderly ∧ made.regions = ["us-east-1", "eu-west-1"] ∧
      (made.units.flatMap WorkUnit.sites).Nodup ∧ (affected (pool.events.map (·.2))).Nodup := by
  intro words lister
  let answer := lister.answering (.ok ⟨0⟩)
  let moves : List Move :=
    [.take 0, .take 1, .take 2, .take 3] ++ List.replicate 5 (.ask 0 answer) ++
      List.replicate 2 (.ask 1 answer) ++ List.replicate 5 (.ask 2 answer) ++
      List.replicate 2 (.ask 3 answer) ++ [.send 3, .send 2, .send 1, .send 0] ++
      List.replicate 4 .receive
  have chosen : [Account.main, .second] ∈ CommandLine.Found.accountChoices.map (·.2) := by decide
  have resolved : Target.resolve words = .ok [.vmInstance, .volume] := by decide +kernel
  have regions : Settings.untidy.resolveRegions.1 = ["us-east-1", "eu-west-1"] := by
    decide +kernel
  have run : ((Program.Context.request .untidy [.main, .second] [.vmInstance, .volume] false
      .noon).toOption.bind fun made => ((Pool.start made).play made moves).map fun pool =>
        (pool.isFinished, affected (pool.events.map (·.2)))) =
      some (true,
        [((.main, "us-east-1", .vmInstance), "i-1"), ((.main, "us-east-1", .volume), "vol-1"),
          ((.second, "us-east-1", .vmInstance), "i-1"),
          ((.second, "us-east-1", .volume), "vol-1")]) := by
    decide +kernel
  obtain ⟨made, accepted, ran⟩ := Option.bind_eq_some_iff.mp run
  obtain ⟨pool, played, found⟩ := Option.map_eq_some_iff.mp ran
  obtain ⟨finished, list⟩ := Prod.mk.inj found
  have made_eq := eq_ok_of_toOption accepted
  obtain ⟨policies, ruled, -⟩ := Program.Context.request_eq_ok made_eq
  obtain ⟨made', again, -, places, -, -, -, orderly, -, apart, once⟩ :=
    Program.Context.request_acts_once chosen resolved ruled false .noon
  cases made_eq.symm.trans again
  have reached : Pool.Reached (.listing lister) made pool :=
    Pool.reached_of_play .start (by simp [moves, Move.Fits, answer, lister.answering_possible])
      played
  exact ⟨policies, made, pool, chosen, resolved, ruled, made_eq, Capture.ofAccounts_uniqueIds,
    reached, finished, list, orderly, places.trans regions, apart,
    once _ Capture.ofAccounts_uniqueIds pool reached⟩

end Retention
