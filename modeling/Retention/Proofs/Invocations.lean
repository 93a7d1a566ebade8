import Retention.Hook.Basic
import Retention.Proofs.Capture
import Retention.Proofs.Sweep.Coverage
import Retention.Settings.Environment

/-!
What the hook is started for. An invocation names the account and the region in its environment and the
resource among its arguments; the two come from the unit and from its listing on different ways. They
still belong together: the capture holds the resource under just that account and region.
-/
namespace Retention

/-- A variable that is handed over takes the place of one with its name. -/
def Environment.set (environment : Environment) (entry : String × String) : Environment :=
  fun name => if name = entry.1 then some (Text.Utf8.encode entry.2) else environment name

namespace Invocation

/-- What the program finds in its environment, if it is started from the given one. -/
def environmentIn (invocation : Invocation) (parent : Environment) : Environment :=
  invocation.environment.foldl Environment.set parent

/-- The environment names the account and the region, and the role of the second account only. -/
structure Placed (invocation : Invocation) (parent : Environment) (role : Option String)
    (account : Account) (region : String) : Prop where
  named : invocation.environmentIn parent "TAGSWEEP_ACCOUNT" =
    some (Text.Utf8.encode account.name)
  located : invocation.environmentIn parent "TAGSWEEP_REGION" = some (Text.Utf8.encode region)
  assumed : invocation.environmentIn parent "TAGSWEEP_ROLE_ARN" =
    if account = .second then role.map Text.Utf8.encode else none

end Invocation

namespace Hook

variable {hook : Hook} {lister : Lister} {ends : Invocation → Span → Ending}
  {call : Call} {account : Account} {region : String}

theorem placed_invocation {parent : Environment} (bare : parent "TAGSWEEP_ROLE_ARN" = none)
    (request : List String) :
    (hook.invocation account region request).Placed parent hook.role account region := by
  constructor <;> cases account <;> cases named : hook.role <;>
    simp [Invocation.environmentIn, invocation, variablesFor, Environment.set, named, bare]

theorem words_of_command {command : String} {limit waitLimit : Span} {role : Option String}
    (configured : ofCommand? command limit waitLimit role = some hook) :
    hook.program :: hook.baseArguments = Text.words command ∧ hook.role = role := by
  unfold ofCommand? at configured
  split at configured
  · cases configured
  · rename_i words
    cases configured
    exact ⟨words.symm, rfl⟩

/-- Keeps an invocation, which comes to the end that `ends` has for it. -/
def recording (ends : Invocation → Span → Ending) (invocation : Invocation) (limit : Span) :
    StateM (List Invocation) Ending := do
  modify (· ++ [invocation])
  return ends invocation limit

/-- The answer to a call, and what has been started on the way. -/
def exchange (hook : Hook) (lister : Lister) (ends : Invocation → Span → Ending) (call : Call) :
    call.Answer × List Invocation :=
  Id.run ((hook.answer lister (recording ends) call).run [])

/-- Every call may end in its own way, so the hook may remember what it has done before. -/
def behaviour (hook : Hook) (lister : Lister) : Behaviour :=
  fun call answer => ∃ ends, answer = (hook.exchange lister ends call).1

theorem listing_of_behaviour {answer : call.Answer} (given : hook.behaviour lister call answer) :
    Behaviour.listing lister call answer := by
  obtain ⟨ends, rfl⟩ := given
  cases call <;> first | rfl | trivial

inductive Launch (hook : Hook) : Call → Invocation → Prop
  | execute (operation : Operation) (snapshot : Snapshot) :
      Launch hook (.execute operation snapshot) (hook.executeInvocation operation snapshot)
  | wait (account : Account) (region : String) (ids : List String) :
      Launch hook (.wait account region ids) (hook.waitInvocation account region ids)

theorem started_of_recording {invocation other : Invocation} {limit : Span}
    (started : invocation ∈ (Id.run ((start (recording ends) other limit).run [])).2) :
    invocation = other := by
  unfold start at started
  split at started
  · cases started
  · exact List.mem_singleton.mp started

theorem launch_of_exchange {invocation : Invocation}
    (started : invocation ∈ (hook.exchange lister ends call).2) : hook.Launch call invocation := by
  cases call with
  | list => cases started
  | execute operation snapshot =>
    rw [started_of_recording started]
    exact .execute operation snapshot
  | wait account region ids =>
    simp only [exchange, answer, wait] at started
    split at started
    · cases started
    · rw [started_of_recording started]
      exact .wait account region ids

theorem executeInvocation_snapshotOf (unit : WorkUnit) (operation : Operation) (one : Listed) :
    hook.executeInvocation operation (unit.snapshotOf one) =
      hook.invocation unit.account unit.region
        ["execute", Text.lowerAscii operation.name, one.kind.name, one.id] := by
  rw [executeInvocation, WorkUnit.account_snapshotOf, WorkUnit.region_snapshotOf,
    WorkUnit.kind_snapshotOf, WorkUnit.id_snapshotOf]

end Hook

theorem Request.region_of_global {request : Request} {account : Account} {region : String}
    {kind : Kind} (asked : (account, region, kind) ∈ request.sites) (global : kind.scope = .global) :
    region = WorkUnit.globalRegion := by
  rcases (mem_sites_iff.mp asked).2.2 with ⟨regional, -⟩ | ⟨-, same⟩
  · cases regional.symm.trans global
  · exact same

/-- The capture has the record under the account and the region. Records of the account itself have
the global region, and no other. -/
structure Capture.Keeps (capture : Capture) (account : Account) (region : String) (one : Listed) :
    Prop where
  held : capture.Holds account region one
  apart : one.kind.scope = .global → region = WorkUnit.globalRegion

namespace WorkUnit

variable {unit : WorkUnit} {request : Request} {kind : Kind} {kinds : List Kind}
  {events : List Event} {event : Event} {account : Account} {region : String} {ids : List String}

/-- What has led to a wait in a dialogue: a listing of instances, from which its ids are taken. -/
inductive Paused (unit : WorkUnit) (kinds : List Kind) (events : List Event) :
    Account → String → List String → Prop
  | intro {listed : List Listed} {ids : List String} (planned : .vmInstance ∈ kinds)
      (answered : unit.listing .vmInstance (.ok listed) ∈ events) (somebody : ids ≠ [])
      (taken : ∀ id ∈ ids, ∃ one ∈ listed, one.id = id) :
      Paused unit kinds events unit.account unit.region ids

theorem Paused.mono {others : List Kind} {more : List Event}
    (paused : Paused unit kinds events account region ids) (wider : kinds ⊆ others)
    (longer : events ⊆ more) : Paused unit others more account region ids := by
  obtain ⟨planned, answered, somebody, taken⟩ := paused
  exact .intro (wider planned) (longer answered) somebody taken

theorem SweptKind.paused {outcome : Option (UnitResult × Bool)}
    (swept : SweptKind unit request kind events outcome) (member : event ∈ events)
    (asked : event.call = .wait account region ids) :
    Paused unit [kind] events account region ids := by
  have waits : event.isWait = true := by
    obtain ⟨call, answer⟩ := event
    cases asked
    rfl
  cases swept with
  | unruled => cases member
  | refused | undefined | vacant =>
    rw [List.mem_singleton.mp member] at asked
    cases asked
  | @judged policy listed _ _ _ _ _ _ handled =>
    rcases List.mem_cons.mp member with rfl | later
    · cases asked
    · cases handled with
      | dry => cases later
      | applied _ _ carried | settled _ _ carried =>
        rw [carried.isWait event later] at waits
        cases waits
      | @paused done _ _ _ machines carried somebody =>
        rcases List.mem_append.mp later with early | last
        · rw [carried.isWait event early] at waits
          cases waits
        · rw [List.mem_singleton.mp last] at asked
          cases asked
          subst machines
          refine .intro List.mem_cons_self List.mem_cons_self somebody fun id taken => ?_
          obtain ⟨record, awaited, rfl⟩ := List.mem_map.mp taken
          have inside := List.mem_map_of_mem (f := (·.snapshot)) (List.mem_filter.mp awaited).1
          rw [carried.snapshots] at inside
          obtain ⟨record', judged, same⟩ := List.mem_map.mp inside
          obtain ⟨one, present, rfl⟩ := List.mem_map.mp judged
          exact ⟨one, present, by rw [← same]; exact (id_snapshotOf one).symm⟩

theorem SweptKinds.paused {outcome : Option UnitResult}
    (swept : SweptKinds unit request kinds events outcome) (member : event ∈ events)
    (asked : event.call = .wait account region ids) :
    Paused unit kinds events account region ids := by
  induction swept with
  | nil => cases member
  | broken head | stopped head => exact (head.paused member asked).mono (by simp) (by simp)
  | goesOn head _ ih =>
    rcases List.mem_append.mp member with first | later
    · exact (head.paused first asked).mono (by simp) (by simp)
    · exact (ih later).mono (by simp) (by simp)

theorem keeps_of_listing {capture : Capture} (planned : unit ∈ request.units) (turn : kind ∈ unit.kinds)
    (allowed : (Behaviour.listing capture.lister).Allows events) {listed : List Listed}
    (answered : unit.listing kind (.ok listed) ∈ events) {one : Listed} (present : one ∈ listed) :
    capture.Keeps unit.account unit.region one ∧ one.kind = kind := by
  have served : capture.lister unit.account unit.region kind = .ok listed :=
    (allowed _ answered).symm
  obtain ⟨held, same⟩ := (Capture.mem_lister_iff served).mp present
  refine ⟨⟨held, fun global => ?_⟩, same⟩
  exact Request.region_of_global (Request.site_mem planned turn) (same ▸ global)

end WorkUnit

/-- What an invocation is started for: the call for the operation that a record of the capture asks
for, or the call for a wait for instances of the capture. -/
inductive Delegated (capture : Capture) (request : Request) (words : List String) (account : Account)
    (region : String) (invocation : Invocation) : Call → Prop
  | execute {one : Listed} {policy : Policy} {operation : Operation}
      (kept : capture.Keeps account region one)
      (asked : (account, region, one.kind) ∈ request.sites) (wet : request.dryRun = false)
      (ruled : request.policies one.kind = some policy)
      (decided : operation =
        (Rules.decide (.ofListed one account region) policy request.now).operation)
      (mutating : operation.isMutating = true)
      (texts : invocation.program :: invocation.arguments =
        words ++ ["execute", Text.lowerAscii operation.name, one.kind.name, one.id]) :
      Delegated capture request words account region invocation
        (.execute operation (.ofListed one account region))
  | wait {ids : List String} (somebody : ids ≠ [])
      (asked : (account, region, .vmInstance) ∈ request.sites)
      (kept : ∀ id ∈ ids, ∃ machine, capture.Keeps account region (.vmInstance machine) ∧
        machine.instanceId = id)
      (texts : invocation.program :: invocation.arguments = words ++ "wait-terminated" :: ids) :
      Delegated capture request words account region invocation (.wait account region ids)

namespace Pool

variable {request : Request} {capture : Capture} {hook : Hook} {pool : Pool} {unit : WorkUnit}
  {event : Event} {invocation : Invocation}

theorem Reached.launch_delegated (reached : Reached (.listing capture.lister) request pool)
    (member : (unit, event) ∈ pool.events) (launch : hook.Launch event.call invocation) :
    Delegated capture request (hook.program :: hook.baseArguments) unit.account unit.region
        invocation event.call ∧
      ∃ texts, invocation = hook.invocation unit.account unit.region texts := by
  obtain ⟨planned, dialogue, outcome, inside, allowed, swept⟩ :=
    reached.asked_in_dialogue (Behaviour.listing_responds _) member
  generalize asked : event.call = call at launch
  cases launch with
  | execute operation snapshot =>
    obtain ⟨wet, turn, ruled, answered, present, mutating⟩ := swept.execution inside asked
    obtain ⟨kept, rfl⟩ := WorkUnit.keeps_of_listing planned turn allowed answered present
    rw [Hook.executeInvocation_snapshotOf]
    exact ⟨.execute kept (Request.site_mem planned turn) wet ruled rfl mutating rfl, _, rfl⟩
  | wait account region ids =>
    obtain ⟨turn, answered, somebody, taken⟩ := swept.paused inside asked
    refine ⟨.wait somebody (Request.site_mem planned turn) (fun id named => ?_) rfl, _, rfl⟩
    obtain ⟨one, present, rfl⟩ := taken id named
    obtain ⟨kept, same⟩ := WorkUnit.keeps_of_listing planned turn allowed answered present
    cases one with
    | vmInstance machine => exact ⟨machine, kept, rfl⟩
    | _ => cases same

/-- Whatever the hook is started for in a run, by however many workers, it is told the account and the
region under which the capture keeps the resources that it is to act on. -/
theorem Reached.delegated {command : String} {limit waitLimit : Span} {role : Option String}
    (configured : Hook.ofCommand? command limit waitLimit role = some hook) {parent : Environment}
    (bare : parent "TAGSWEEP_ROLE_ARN" = none)
    (reached : Reached (hook.behaviour capture.lister) request pool)
    (member : (unit, event) ∈ pool.events) {ends : Invocation → Span → Ending}
    (started : invocation ∈ (hook.exchange capture.lister ends event.call).2) :
    ∃ account region, invocation.Placed parent role account region ∧
      Delegated capture request (Text.words command) account region invocation event.call := by
  obtain ⟨words, rfl⟩ := Hook.words_of_command configured
  have listed : Reached (.listing capture.lister) request pool :=
    reached.mono fun _ _ => Hook.listing_of_behaviour
  obtain ⟨purpose, texts, rfl⟩ :=
    listed.launch_delegated member (Hook.launch_of_exchange started)
  rw [words] at purpose
  exact ⟨unit.account, unit.region, Hook.placed_invocation bare texts, purpose⟩

end Pool

/-- Both accounts have an instance and a bucket, under the same ids. -/
def Capture.ofNamesakes : Capture := .ofBoth
  { regions := Dictionary.empty.insert "us-east-1" ⟨[⟨[.untagged]⟩], [], [], [], [], [], []⟩
    buckets := [⟨"logs", none, 1, none, none⟩]
    resourceGroups := [] }

def Request.forNamesakes : Request :=
  ⟨[.main, .second], ["us-east-1"], [.vmInstance, .bucket], fun _ => some .tagOnly, false, 2, .noon⟩

namespace Pool

/-- Two workers at two accounts with the same ids. -/
theorem delegated_namesakes :
    let lister := Capture.ofNamesakes.lister
    let hook : Hook := ⟨"hook", ["--profile", "ops"], ⟨1⟩, ⟨1⟩, some "cleaner"⟩
    let ends : Invocation → Span → Ending := fun _ _ => .exited 0 [] []
    let parent : Environment := fun _ => none
    ∃ pool, Hook.ofCommand? "hook --profile ops" ⟨1⟩ ⟨1⟩ (some "cleaner") = some hook ∧
      parent "TAGSWEEP_ROLE_ARN" = none ∧
      Reached (hook.behaviour lister) .forNamesakes pool ∧ pool.isFinished = true ∧
      (pool.events.flatMap fun entry => (hook.exchange lister ends entry.2.call).2.map
          fun invocation => (entry.1.account, entry.1.region, invocation.arguments.drop 2)) =
        [(.main, "global", ["execute", "delete", "bucket", "logs"]),
          (.second, "us-east-1", ["execute", "terminate", "instance", "i-1"]),
          (.main, "us-east-1", ["execute", "terminate", "instance", "i-1"]),
          (.second, "us-east-1", ["wait-terminated", "i-1"]),
          (.main, "us-east-1", ["wait-terminated", "i-1"]),
          (.second, "global", ["execute", "delete", "bucket", "logs"])] ∧
      ∀ entry ∈ pool.events, ∀ invocation ∈ (hook.exchange lister ends entry.2.call).2,
        ∃ account region, invocation.Placed parent (some "cleaner") account region ∧
          Delegated .ofNamesakes .forNamesakes (Text.words "hook --profile ops") account region
            invocation entry.2.call := by
  intro lister hook ends parent
  let answer (call : Call) : call.Answer := (hook.exchange lister ends call).1
  have possible (call : Call) : hook.behaviour lister call (answer call) := ⟨ends, rfl⟩
  have configured :
      Hook.ofCommand? "hook --profile ops" ⟨1⟩ ⟨1⟩ (some "cleaner") = some hook := by
    decide +kernel
  have run : ((start .forNamesakes).play .forNamesakes
      [.take 0, .take 1, .ask 0 answer, .ask 1 answer, .ask 1 answer, .send 1, .take 1, .ask 1 answer,
        .ask 1 answer, .ask 0 answer, .ask 1 answer, .ask 0 answer, .send 0, .take 0, .ask 0 answer,
        .ask 0 answer, .send 0, .send 1, .receive, .receive, .receive, .receive]).map (fun pool =>
          (pool.isFinished, pool.events.flatMap fun entry =>
            (hook.exchange lister ends entry.2.call).2.map fun invocation =>
              (entry.1.account, entry.1.region, invocation.arguments.drop 2))) =
      some (true,
        [(.main, "global", ["execute", "delete", "bucket", "logs"]),
          (.second, "us-east-1", ["execute", "terminate", "instance", "i-1"]),
          (.main, "us-east-1", ["execute", "terminate", "instance", "i-1"]),
          (.second, "us-east-1", ["wait-terminated", "i-1"]),
          (.main, "us-east-1", ["wait-terminated", "i-1"]),
          (.second, "global", ["execute", "delete", "bucket", "logs"])]) := by
    decide +kernel
  obtain ⟨pool, played, found⟩ := Option.map_eq_some_iff.mp run
  obtain ⟨finished, started⟩ := Prod.mk.inj found
  have reached : Reached (hook.behaviour lister) .forNamesakes pool :=
    reached_of_play .start (by simp [Move.Fits, possible]) played
  refine ⟨pool, configured, rfl, reached, finished, started, fun entry member invocation inside => ?_⟩
  exact reached.delegated configured rfl member inside

end Pool
end Retention
