import Retention.CommandLine.Program
import Retention.Proofs.Sweep.Barrier
import Retention.Proofs.Sweep.Failures

/-!
How an application ends. Its host is any machine with a state, the world, so the hook may remember what
it did. The exit code for failed executions is given for a report with errors and for nothing else, and
every such error is one that the hook has answered in the sweep.
-/
namespace Retention

/-- The value of an action, and the world that it leaves. -/
def perform {σ α : Type} (action : StateM σ α) (world : σ) : α × σ := Id.run (action.run world)

section Perform

variable {σ α β : Type}

@[simp] theorem perform_pure (value : α) (world : σ) :
    perform (pure value) world = (value, world) := rfl

@[simp] theorem perform_bind (action : StateM σ α) (next : α → StateM σ β) (world : σ) :
    perform (action >>= next) world =
      perform (next (perform action world).1) (perform action world).2 := rfl

end Perform

namespace Task

variable {σ α : Type} {answer : (call : Call) → StateM σ call.Answer} {event : Event}

/-- What a task asks, with the answers that it is given on the way. -/
def asked (answer : (call : Call) → StateM σ call.Answer) : Task α → σ → List Event
  | .done _, _ | .abort, _ => []
  | .ask call next, world =>
    let given := perform (answer call) world
    ⟨call, given.1⟩ :: (next given.1).asked answer given.2

theorem ends_asked (task : Task α) (world : σ) :
    Ends task (task.asked answer world) (perform (task.run answer) world).1 := by
  induction task generalizing world with
  | done value => exact .done value
  | abort => exact .abort
  | ask call next ih => exact .ask (ih _ _)

theorem given_of_asked {task : Task α} {world : σ} (member : event ∈ task.asked answer world) :
    ∃ moment, event.answer = (perform (answer event.call) moment).1 := by
  induction task generalizing world with
  | done | abort => cases member
  | ask call next ih =>
    rcases List.mem_cons.mp member with rfl | later
    · exact ⟨world, rfl⟩
    · exact ih _ later

end Task

namespace Request

variable {σ : Type} {request : Request} {answer : (call : Call) → StateM σ call.Answer}
  {event : Event} {world : σ}

/-- What is asked for units that are run one after the other. -/
def askedFor (request : Request) (answer : (call : Call) → StateM σ call.Answer) :
    List WorkUnit → σ → List Event
  | [], _ => []
  | unit :: units, world =>
    let swept := perform ((unit.sweep request).run answer) world
    (unit.sweep request).asked answer world ++
      if swept.1.isSome then request.askedFor answer units swept.2 else []

/-- What a sweep asks, if it may begin. -/
def asked (request : Request) (answer : (call : Call) → StateM σ call.Answer) (world : σ) :
    List Event :=
  match request.check true with
  | .ok () => request.askedFor answer request.units world
  | .error _ => []

theorem given_of_asked (member : event ∈ request.asked answer world) :
    ∃ moment, event.answer = (perform (answer event.call) moment).1 := by
  have each (units : List WorkUnit) (world : σ) (member : event ∈ request.askedFor answer units world) :
      ∃ moment, event.answer = (perform (answer event.call) moment).1 := by
    induction units generalizing world with
    | nil => cases member
    | cons unit units ih =>
      rcases List.mem_append.mp member with first | later
      · exact Task.given_of_asked first
      · split at later
        · exact ih _ later
        · cases later
  unfold asked at member
  split at member
  · exact each _ _ member
  · cases member

theorem runUnits_gists {units : List WorkUnit} {results : List (WorkUnit × UnitResult)}
    (ran : (perform (request.runUnits answer units) world).1 = .ok results) :
    ((results.map (·.2)).flatMap (·.issues)).map Issue.gist =
      ((request.askedFor answer units world).filterMap Event.issue?).map Issue.gist := by
  induction units generalizing world results with
  | nil =>
    cases ran
    rfl
  | cons unit units ih =>
    have ends : Task.Ends (unit.sweep request) ((unit.sweep request).asked answer world) _ :=
      Task.ends_asked _ world
    rw [runUnits, perform_bind] at ran
    rw [askedFor]
    cases swept : (perform ((unit.sweep request).run answer) world).1 with
    | none =>
      rw [swept] at ran
      cases ran
    | some result =>
      rw [swept] at ran ends
      have gists := (WorkUnit.ends_sweep_iff.mp ends).gists
      simp only [perform_bind, perform_pure] at ran
      cases rest : (perform (request.runUnits answer units)
          (perform ((unit.sweep request).run answer) world).2).1 with
      | error failure =>
        rw [rest] at ran
        cases ran
      | ok others =>
        rw [rest] at ran
        cases ran
        have later := ih rest
        simp only [List.map_cons, List.flatMap_cons, List.map_append, Option.isSome_some, if_true,
          List.filterMap_append, gists, later]

/-- The errors in the report of a sweep are those that were answered on the way. -/
theorem run_executionErrorCount {report : Report} {results : List (WorkUnit × UnitResult)}
    (ran : (perform (request.run true answer) world).1 = .ok (report, results)) :
    report.executionErrorCount = (request.asked answer world).countP (·.isFailure) +
      (request.asked answer world).countP (·.isTrialWait) := by
  unfold run at ran
  unfold asked
  cases ready : request.check true with
  | error failure =>
    rw [ready] at ran
    cases ran
  | ok =>
    rw [ready] at ran
    simp only [perform_bind, perform_pure] at ran
    cases swept : (perform (request.runUnits answer request.units) world).1 with
    | error failure =>
      rw [swept] at ran
      cases ran
    | ok delivered =>
      rw [swept] at ran
      cases ran
      have counted := Event.countP_issues (request.askedFor answer request.units world)
      rw [Report.executionErrorCount_assemble, runUnits_gists swept, List.countP_map]
      exact counted

end Request

namespace Hook

variable {σ : Type} {hook : Hook} {lister : Lister} {launch : Invocation → Span → StateM σ Ending}

theorem waitAnswer_not_benign {ids : List String} {ending : Ending} {failure : ExecutionError}
    (failed : hook.waitAnswer ids ending = .error failure) : failure.isBenign = false := by
  cases ending with
  | timedOut | notStarted =>
    cases failed
    rfl
  | exited code output errors =>
    simp only [waitAnswer] at failed
    split at failed
    · cases failed
    · cases failed
      rfl

theorem not_isTrialWait {event : Event} {moment : σ}
    (given : event.answer = (perform (hook.answer lister launch event.call) moment).1) :
    event.isTrialWait = false := by
  obtain ⟨call, result⟩ := event
  cases call with
  | list | execute => rfl
  | wait account region ids =>
    cases result with
    | ok => rfl
    | error failure =>
      simp only [answer, wait] at given
      split at given
      · cases given
      · exact waitAnswer_not_benign given.symm

end Hook

namespace Program

variable {σ α β : Type}

/-- A run that does not end with the exit code for failed executions. -/
def Spares (run : Run (StateM σ) α) : Prop :=
  ∀ world failure, (perform run.run world).1 = .error (.failed failure) →
    failure.exitCode ≠ .executionFailed

theorem perform_run_bind (run : Run (StateM σ) α) (next : α → Run (StateM σ) β) (world : σ) :
    perform (run >>= next).run world =
      match perform run.run world with
      | (.ok value, after) => perform (next value).run after
      | (.error stop, after) => (.error stop, after) := by
  rw [ExceptT.run_bind, perform_bind]
  cases perform run.run world with
  | mk outcome after => cases outcome <;> rfl

/-- A run that fails with this code has come to the part that does. -/
theorem Spares.failed_bind {run : Run (StateM σ) α} {next : α → Run (StateM σ) β} (spares : Spares run)
    {world : σ} {failure : Failure}
    (failed : (perform (run >>= next).run world).1 = .error (.failed failure))
    (code : failure.exitCode = .executionFailed) :
    ∃ value after, perform run.run world = (.ok value, after) ∧
      (perform (next value).run after).1 = .error (.failed failure) := by
  rw [perform_run_bind] at failed
  cases first : perform run.run world with
  | mk outcome after =>
    rw [first] at failed
    cases outcome with
    | ok value => exact ⟨value, after, rfl, failed⟩
    | error stop =>
      simp only [Except.error.injEq] at failed
      subst failed
      exact absurd code (spares world failure (by rw [first]))

namespace Spares

theorem pure (value : α) : Spares (pure value : Run (StateM σ) α) := by
  intro world failure failed
  cases failed

theorem lift (action : StateM σ α) : Spares (action : Run (StateM σ) α) := by
  intro world failure failed
  cases failed

theorem bind {run : Run (StateM σ) α} {next : α → Run (StateM σ) β} (first : Spares run)
    (rest : ∀ value, Spares (next value)) : Spares (run >>= next) := by
  intro world failure failed code
  obtain ⟨value, after, -, last⟩ := first.failed_bind failed code
  exact rest value after failure last code

theorem fail {failure : Failure} (other : failure.exitCode ≠ .executionFailed) :
    Spares (Program.fail failure : Run (StateM σ) α) := by
  intro world failure' failed
  cases failed
  exact other

theorem orFail {ε : Type} {failure : ε → Failure} {result : Except ε α}
    (other : ∀ error, (failure error).exitCode ≠ .executionFailed) :
    Spares (Program.orFail failure result : Run (StateM σ) α) := by
  cases result with
  | ok value => exact .pure value
  | error error => exact .fail (other error)

/-- What comes after a condition is the same on both ways. -/
theorem guarded {condition : Prop} [Decidable condition] {run : Run (StateM σ) Unit}
    {rest : Unit → Run (StateM σ) α} (first : Spares run) (later : ∀ value, Spares (rest value)) :
    Spares (if condition then run >>= rest else rest ()) := by
  split
  · exact .bind first later
  · exact later ()

theorem refuse (message : String) : Spares (Program.refuse message : Run (StateM σ) α) :=
  .fail (by simp [Failure.invalidArguments, Failure.exitCode])

variable {host : Host (StateM σ)} {context : Context (StateM σ)}

theorem newLog {home : Path} {stem extension : String} :
    Spares (Program.newLog host home stem extension) := by
  refine .bind (.lift _) fun made => .bind (.orFail fun cause => ?_) fun _ => ?_
  · simp [logDirectoryFailure, Failure.exitCode]
  · exact .bind (.lift _) fun moment => .pure _

theorem writeLog {what content : String} {path : Path} :
    Spares (Program.writeLog host what path content) := by
  refine .bind (.lift _) fun written => .orFail fun cause => ?_
  simp [Failure.exitCode]

theorem printUnlessQuiet (text : String) : Spares (context.printUnlessQuiet text) := by
  unfold Context.printUnlessQuiet
  split
  · exact .pure _
  · exact .lift _

theorem kindsFor (targets : List String) :
    Spares (Context.kindsFor targets : Run (StateM σ) (List Kind)) :=
  .orFail fun target => by simp [Failure.invalidArguments, Failure.exitCode]

theorem requestNow {accounts : List Account} {kinds : List Kind} {dryRun : Bool} :
    Spares (context.requestNow accounts kinds dryRun) :=
  .bind (.lift _) fun now => .orFail fun cause => by simp [Failure.exitCode]

theorem openCapture (path : String) : Spares (context.openCapture path) := by
  refine .bind (.lift _) fun found => .orFail fun error => ?_
  cases error <;> simp [CaptureError.failure, Failure.exitCode]

theorem orStop (outcome : Except SweepError α) :
    Spares (Context.orStop outcome : Run (StateM σ) α) := by
  cases outcome with
  | ok value => exact .pure value
  | error failure =>
    cases failure with
    | policyMissing kind => exact .fail (by simp [Failure.exitCode])
    | executorMissing => exact .fail (by simp [Failure.exitCode])
    | undefinedAge =>
      intro world failure failed
      cases failed

theorem preview (capture : Capture) (request : Request) :
    Spares (Context.preview capture request : Run (StateM σ) Report) :=
  .bind (.orStop _) fun _ => .pure _

theorem reportJson (report : Report) :
    Spares (Context.reportJson report : Run (StateM σ) Json) := by
  unfold Context.reportJson
  split
  · exact .pure _
  · exact .fail (by simp [Failure.exitCode])

theorem emit (report : Report) (markdown : Bool) : Spares (context.emit report markdown) := by
  unfold Context.emit
  split
  · exact .bind (.reportJson report) fun value => .lift _
  · split
    · exact .lift _
    · exact .printUnlessQuiet _

theorem confirm (count : Nat) : Spares (context.confirm count) := by
  refine .bind (.lift _) fun _ => .bind (.lift _) fun line => ?_
  split
  · exact .pure _
  · exact .fail (by simp [Failure.exitCode])

theorem approve (report : Report) : Spares (context.approve report) := by
  refine .bind (.printUnlessQuiet _) fun _ => ?_
  refine .guarded (.refuse _) fun _ => .bind (.confirm _) fun approved => ?_
  exact .guarded (.printUnlessQuiet _) fun _ => .pure _

theorem hookFor (settings : Settings) (command : String) :
    Spares (Context.hookFor settings command : Run (StateM σ) Hook) := by
  unfold Context.hookFor
  simp only
  split
  · exact .pure _
  · exact .refuse _

theorem opening (options : SweepOptions) (confirmed : Bool) :
    Spares (context.opening options confirmed) := by
  unfold Context.opening
  refine .guarded (.refuse _) fun _ => ?_
  split
  · refine .guarded (.refuse _) fun _ => ?_
    refine .bind (.kindsFor _) fun kinds => .bind .requestNow fun request => ?_
    refine .bind (.openCapture _) fun capture => .bind (.preview _ _) fun report => ?_
    split
    · split
      · refine .bind (.reportJson _) fun value => .bind (.lift _) fun _ => ?_
        exact .pure _
      · refine .bind (.printUnlessQuiet _) fun _ => ?_
        exact .pure _
    · have last (approved : Bool) (command : String) : Spares
          ((if approved = true then do
            let hook ← Context.hookFor context.settings command
            Pure.pure (some (kinds, capture, hook))
          else Pure.pure none) : Run (StateM σ) (Option (List Kind × Capture × Hook))) := by
        split
        · exact .bind (.hookFor _ _) fun hook => .pure _
        · exact .pure _
      split
      · exact .bind (.pure _) fun approved => last approved _
      · exact .bind (.approve _) fun approved => last approved _
  · exact .refuse _

end Spares

namespace Context

variable {context : Context (StateM σ)} {options : SweepOptions} {failure : Failure}

/-- What the sweep asks that carries a request out. -/
def askedToCarryOut (context : Context (StateM σ)) (options : SweepOptions) (kinds : List Kind)
    (capture : Capture) (hook : Hook) (world : σ) : List Event :=
  match perform (context.requestNow options.accounts kinds false).run world with
  | (.ok request, world) =>
    request.asked (hook.answer capture.lister context.host.launch) (perform context.host.now world).2
  | (.error _, _) => []

/-- What an application asks of its lister and of its hook, with the answers that it is given. -/
def asked (context : Context (StateM σ)) (options : SweepOptions) (confirmed : Bool) (world : σ) :
    List Event :=
  match perform (context.opening options confirmed).run world with
  | (.ok (some (kinds, capture, hook)), world) =>
    context.askedToCarryOut options kinds capture hook world
  | (.ok none, _) | (.error _, _) => []

theorem carryOut_failed {kinds : List Kind} {capture : Capture} {hook : Hook} {world : σ}
    (failed : (perform (context.carryOut options kinds capture hook).run world).1 =
      .error (.failed failure)) (code : failure.exitCode = .executionFailed) :
    ∃ event ∈ context.askedToCarryOut options kinds capture hook world, event.isFailure = true := by
  unfold carryOut at failed
  obtain ⟨request, begun, requested, failed⟩ := Spares.requestNow.failed_bind failed code
  obtain ⟨startedAt, started, clock, failed⟩ := (Spares.lift _).failed_bind failed code
  obtain ⟨result, swept, ran, failed⟩ := (Spares.lift _).failed_bind failed code
  obtain ⟨⟨report, results⟩, after, stopped, failed⟩ := (Spares.orStop _).failed_bind failed code
  obtain ⟨finishedAt, _, -, failed⟩ := (Spares.lift _).failed_bind failed code
  obtain ⟨path, _, -, failed⟩ := Spares.newLog.failed_bind failed code
  obtain ⟨_, _, -, failed⟩ := Spares.writeLog.failed_bind failed code
  obtain ⟨_, last, -, failed⟩ := (Spares.emit _ _).failed_bind failed code
  have errors : 0 < report.executionErrorCount := by
    refine Nat.pos_of_ne_zero fun none => ?_
    simp only [none, gt_iff_lt, lt_self_iff_false, if_false] at failed
    cases failed
  have begins : context.askedToCarryOut options kinds capture hook world =
      request.asked (hook.answer capture.lister context.host.launch) started := by
    have same : (perform context.host.now begun).2 = started := (Prod.mk.inj clock).2
    rw [askedToCarryOut, requested, ← same]
  have swept_eq : (perform (request.run true (hook.answer capture.lister context.host.launch))
      started).1 = .ok (report, results) := by
    obtain ⟨outcome, -⟩ := Prod.mk.inj ran
    cases result with
    | ok found =>
      cases (Prod.mk.inj stopped).1
      exact Except.ok.inj outcome
    | error broken =>
      obtain ⟨absurd, -⟩ := Prod.mk.inj stopped
      cases broken <;> cases absurd
  have no_trial : (request.asked (hook.answer capture.lister context.host.launch)
      started).countP (·.isTrialWait) = 0 := by
    refine List.countP_eq_zero.mpr fun event member => ?_
    obtain ⟨moment, given⟩ := Request.given_of_asked member
    simp [Hook.not_isTrialWait given]
  rw [Request.run_executionErrorCount swept_eq, no_trial, Nat.add_zero] at errors
  rw [begins]
  exact List.countP_pos_iff.mp errors

/-- An application with the exit code for failed executions has had one. -/
theorem apply_failed {confirmed : Bool} {world : σ}
    (failed : (perform (context.apply options confirmed).run world).1 = .error (.failed failure))
    (code : failure.exitCode = .executionFailed) :
    ∃ event ∈ context.asked options confirmed world, event.isFailure = true := by
  unfold apply at failed
  obtain ⟨found, after, opened, failed⟩ :=
    (Spares.opening options confirmed).failed_bind failed code
  rw [asked, opened]
  cases found with
  | none => cases failed
  | some found => exact carryOut_failed failed code

end Context

end Program

namespace Pool

/-- What counts against a sweep are the errors of its executor that are no trials, and besides these the
waits that are answered as trials. Without either nothing is left out. The hook has no such answer to a
wait, so an application with the exit code for failed executions has had an error that is no trial. -/
theorem Reached.charged {request : Request} {pool : Pool} (reached : Reached .any request pool)
    (finished : pool.isFinished = true) {σ : Type} (context : Program.Context (StateM σ))
    (options : SweepOptions) (confirmed : Bool) (world : σ) :
    Charged request pool ∧
    ∀ failure, (perform (context.apply options confirmed).run world).1 = .error (.failed failure) →
      failure.exitCode = .executionFailed →
        ∃ event ∈ context.asked options confirmed world, event.isFailure = true := by
  refine ⟨reached.charged_of_isFinished finished, fun failure failed code => ?_⟩
  exact Program.Context.apply_failed failed code

end Pool

/-- A machine with one file, on which every program ends alike. It counts the programs. -/
def Host.countingPrograms (content : String) (ending : Ending) : Host (StateM Nat) where
  environment _ := none
  inputIsTerminal := false
  outputIsTerminal := false
  errorsAreTerminal := false
  processId := 1
  now := pure .noon
  look _ := pure (.ok (.file (Text.Utf8.encode content)))
  makeDirectory _ := pure (.ok ())
  writeFile _ _ := pure (.ok ())
  print _ := pure ()
  printError _ := pure ()
  readLine := pure []
  launch _ _ := do
    modify (· + 1)
    return ending

/-- An inventory with one resource group, which has no tag. -/
def Capture.groupText : String :=
  "\x7b\"accounts\":\x7b\"Main\":\x7b\"resource_groups\":[\x7b\"name\":\"rg-1\"\x7d]\x7d\x7d\x7d"

def SweepOptions.everything : SweepOptions := ⟨"inventory.json", [.main], [], false⟩

def Program.Context.forGroup (ending : Ending) : Program.Context (StateM Nat) where
  host := .countingPrograms Capture.groupText ending
  line := ⟨false, false, false, true, none, .apply .everything true⟩
  settings := { hookCommand := some "hook" }
  home := .ofText "/home"

/-- The failure that an outcome stands for. -/
def Program.failure? : Except Stop Unit → Option Failure
  | .error (.failed failure) => some failure
  | .ok () | .error .undefinedAge => none

namespace Pool

/-- A wait that runs out of time, and an application whose hook fails. -/
theorem charged_timeout :
    let answer := Capture.ofDisks.lister.halting (.waitTimeout ["i-1"] ⟨300000000000⟩)
    let context := Program.Context.forGroup (.exited 1 [] [])
    ∃ pool, (start .forDisks).play .forDisks (Move.forDisks answer) = some pool ∧
      pool.isFinished = true ∧ (pool.report .forDisks).executionErrorCount = 1 ∧
      ∃ failure, (perform (context.apply .everything true).run 0).1 = .error (.failed failure) ∧
        failure.exitCode = .executionFailed ∧
        ∃ event ∈ context.asked .everything true 0, event.isFailure = true := by
  intro answer context
  have run : ((start .forDisks).play .forDisks (Move.forDisks answer)).map (fun pool =>
      (pool.isFinished, pool.events.countP (·.2.isFailure), pool.events.countP (·.2.isTrialWait))) =
      some (true, 1, 0) := by
    decide +kernel
  obtain ⟨pool, played, found⟩ := Option.map_eq_some_iff.mp run
  simp only [Prod.mk.injEq] at found
  obtain ⟨finished, failures, trials⟩ := found
  have ended : (Program.failure? (perform (context.apply .everything true).run 0).1).map
      (·.exitCode) = some .executionFailed := by
    decide +kernel
  obtain ⟨failure, failed, code⟩ := Option.map_eq_some_iff.mp ended
  have stopped : (perform (context.apply .everything true).run 0).1 = .error (.failed failure) := by
    cases outcome : (perform (context.apply .everything true).run 0).1 with
    | ok => simp [outcome, Program.failure?] at failed
    | error stop => cases stop <;> simp_all [Program.failure?]
  have reached : Reached .any .forDisks pool :=
    reached_of_play .start (fun move _ => move.fits_any) played
  obtain ⟨charged, asked⟩ := reached.charged finished context .everything true 0
  refine ⟨pool, played, finished, ?_, failure, stopped, code, asked failure stopped code⟩
  rw [charged.count, failures, trials]

/-- A wait that is answered as a trial fails a run in which nothing else goes wrong, and a volume is
left out. -/
theorem trial_of_wait_fails :
    ∃ pool, Reached .any .forDisks pool ∧ pool.isFinished = true ∧
      (∀ entry ∈ pool.events, entry.2.isFailure = false) ∧
      (pool.report .forDisks).executionErrorCount ≠ pool.events.countP (·.2.isFailure) ∧
      ∀ entry ∈ pool.events, entry.2.call.site ≠ (.main, "us-east-1", .volume) := by
  let answer := Capture.ofDisks.lister.halting .dryRunWouldSucceed
  have run : ((start .forDisks).play .forDisks (Move.forDisks answer)).map (fun pool =>
      (pool.isFinished, pool.events.countP (·.2.isFailure), pool.events.countP (·.2.isTrialWait),
        pool.events.countP (·.2.call.site = (.main, "us-east-1", .volume)))) =
      some (true, 0, 1, 0) := by
    decide +kernel
  obtain ⟨pool, played, found⟩ := Option.map_eq_some_iff.mp run
  simp only [Prod.mk.injEq] at found
  obtain ⟨finished, failures, trials, volumes⟩ := found
  have reached : Reached .any .forDisks pool :=
    reached_of_play .start (fun move _ => move.fits_any) played
  refine ⟨pool, reached, finished, ?_, ?_, ?_⟩
  · simpa using List.countP_eq_zero.mp failures
  · rw [reached.executionErrorCount_eq finished, failures, trials]
    decide
  · simpa using List.countP_eq_zero.mp volumes

end Pool
end Retention
