import Mathlib.Algebra.GroupWithZero.Nat
import Retention.Proofs.Sweep.Results

/-!
Runs come to an end. Where each call has one answer, every move uses up one step of what is left to do.
A run that can go no further is finished, or some worker has met a resource whose age is undefined.
-/
namespace Retention

/-- How many questions are left to ask. -/
def Task.questions {α : Type} (answer : (call : Call) → call.Answer) : Task α → Nat
  | .done _ | .abort => 0
  | .ask call next => (next (answer call)).questions answer + 1

namespace Pool

variable {answer : (call : Call) → call.Answer} {behaviour : Behaviour} {request : Request}
  {pool next : Pool}

/-- The moves that are left: to take, ask, send and receive. -/
def remaining (answer : (call : Call) → call.Answer) (request : Request) (pool : Pool) : Nat :=
  (pool.waiting.map fun unit => (unit.sweep request).questions answer + 3).sum +
    (pool.workers.reduceOption.map fun worker => worker.task.questions answer + 2).sum +
    pool.sent.length

private theorem sum_set (cost : Worker → Nat) {workers : List (Option Worker)} {place : Nat}
    {old : Option Worker} (found : workers[place]? = some old) (new : Option Worker) :
    ((workers.set place new).reduceOption.map cost).sum + (old.map cost).getD 0 =
      (workers.reduceOption.map cost).sum + (new.map cost).getD 0 := by
  have before := ((reduceOption_perm found).map cost).sum_nat
  have after := ((reduceOption_set_perm found new).map cost).sum_nat
  rw [before, after]
  cases old <;> cases new <;> simp <;> omega

/-- Every move is a step towards the end. -/
theorem remaining_of_move {move : Move} (fits : move.Fits (.fixed answer))
    (moved : pool.move request move = some next) :
    next.remaining answer request + 1 = pool.remaining answer request := by
  let cost (worker : Worker) : Nat := worker.task.questions answer + 2
  cases move_eq_some_iff.mp moved with
  | @take worker unit waiting idle first =>
    have workers := sum_set cost idle (some ⟨unit, [], unit.sweep request⟩)
    simp [remaining, first, cost] at workers ⊢
    omega
  | @ask worker given unit past call answered asking =>
    have same : given call = answer call := fits call
    have workers := sum_set cost asking
      (some ⟨unit, past ++ [⟨call, given call⟩], answered (given call)⟩)
    simp [remaining, same, cost, Task.questions] at workers ⊢
    omega
  | @send worker unit past result ready =>
    have workers := sum_set cost ready none
    simp [remaining, cost, Task.questions] at workers ⊢
    omega
  | @receive delivery sent first =>
    simp [remaining, first]
    omega

/-- No run has more moves than are left at its start. -/
theorem length_add_remaining {moves : List Move} (fits : ∀ move ∈ moves, move.Fits (.fixed answer))
    (played : pool.play request moves = some next) :
    moves.length + next.remaining answer request = pool.remaining answer request := by
  induction moves generalizing pool with
  | nil =>
    cases played
    simp
  | cons move moves ih =>
    simp only [play, List.foldlM_cons] at played
    obtain ⟨middle, moved, rest⟩ := Option.bind_eq_some_iff.mp played
    have step := remaining_of_move (fits move (by simp)) moved
    have later := ih (fun other member => fits other (by simp [member])) rest
    simp only [List.length_cons]
    omega

theorem Reached.workers_length (reached : Reached behaviour request pool) :
    pool.workers.length = request.workerCount := by
  induction reached with
  | start => exact List.length_replicate
  | move _ _ moved ih => cases move_eq_some_iff.mp moved <;> simpa using ih

theorem workerCount_pos (request : Request) : 0 < request.workerCount := by
  unfold Request.workerCount
  omega

theorem IsStuck.not_moved {move : Move} (stuck : pool.IsStuck request) :
    ¬ Moved request pool move next := by
  intro moved
  have possible := move_eq_some_iff.mpr moved
  rw [stuck move] at possible
  cases possible

theorem isStuck_of_isFinished (finished : pool.isFinished = true) : pool.IsStuck request := by
  simp only [isFinished, Bool.and_eq_true, List.isEmpty_iff, List.all_eq_true] at finished
  obtain ⟨⟨waiting, idle⟩, sent⟩ := finished
  have resting {place : Nat} {worker : Worker} :
      pool.workers[place]? ≠ some (some worker) := by
    intro working
    have quiet := idle _ (List.mem_of_getElem? working)
    cases quiet
  intro move
  refine Option.eq_none_iff_forall_not_mem.mpr fun next possible => ?_
  cases move_eq_some_iff.mp possible with
  | take _ first => simp [waiting] at first
  | ask asking => exact resting asking
  | send ready => exact resting ready
  | receive first => simp [sent] at first

/-- A run that can go no further is finished, or some worker cannot go on. -/
theorem Reached.finished_or_aborted (reached : Reached behaviour request pool)
    (stuck : pool.IsStuck request) :
    pool.isFinished = true ∨ ∃ unit events, (⟨unit, events, .abort⟩ : Worker) ∈ pool.jobs := by
  have sent : pool.sent = [] := by
    cases queue : pool.sent with
    | nil => rfl
    | cons delivery sent => exact absurd (.receive queue) stuck.not_moved
  have broken {place : Nat} {worker : Worker} (working : pool.workers[place]? = some (some worker)) :
      worker.task = .abort := by
    obtain ⟨unit, events, task⟩ := worker
    cases task with
    | abort => rfl
    | done result => exact absurd (.send working) stuck.not_moved
    | ask call answered =>
      let answer := Lister.answering (fun _ _ _ => .ok []) (.ok ⟨0⟩)
      have asked : Moved request pool (.ask place answer) _ := .ask working
      exact absurd asked stuck.not_moved
  by_cases resting : ∀ worker ∈ pool.workers, worker = none
  · left
    have idle : pool.workers[0]? = some none := by
      have inside : 0 < pool.workers.length := reached.workers_length ▸ workerCount_pos request
      rw [List.getElem?_eq_getElem inside, resting _ (List.getElem_mem inside)]
    have waiting : pool.waiting = [] := by
      cases queue : pool.waiting with
      | nil => rfl
      | cons unit waiting => exact absurd (.take idle queue) stuck.not_moved
    simp only [isFinished, waiting, sent, List.isEmpty_nil, Bool.true_and, Bool.and_true]
    exact List.all_eq_true.mpr fun worker member => by simp [resting worker member]
  · right
    push Not at resting
    obtain ⟨slot, member, busy⟩ := resting
    obtain ⟨worker, rfl⟩ := Option.ne_none_iff_exists'.mp busy
    obtain ⟨place, found⟩ := List.mem_iff_getElem?.mp member
    have stopped := broken found
    obtain ⟨unit, events, task⟩ := worker
    cases stopped
    exact ⟨unit, events, List.mem_append_left _ (List.reduceOption_mem_iff.mpr member)⟩

/-- A run that can go no further without being finished has met an undefined age. -/
theorem Reached.undefined_of_unfinished (reached : Reached behaviour request pool)
    (stuck : pool.IsStuck request) (unfinished : ¬ pool.isFinished = true) :
    ∃ unit ∈ request.units, ∃ kind ∈ unit.kinds, ∃ policy listed,
      request.policies kind = some policy ∧
      behaviour (.list unit.account unit.region kind) (.ok listed) ∧
      ¬ unit.Defined policy request.now listed := by
  obtain ⟨unit, events, aborted⟩ := (reached.finished_or_aborted stuck).resolve_left unfinished
  have accounted := reached.accounted
  have planned : unit ∈ pool.waiting ++ pool.jobs.map (·.unit) :=
    List.mem_append_right _ (List.mem_map_of_mem (f := (·.unit)) aborted)
  have ends := (accounted.steps _ aborted).trans_ends .abort
  rw [List.append_nil] at ends
  obtain ⟨kind, turn, policy, listed, ruled, asked, undefined⟩ :=
    (WorkUnit.ends_sweep_iff.mp ends).undefined rfl
  exact ⟨unit, accounted.units.mem_iff.mp planned, kind, turn, policy, listed, ruled,
    accounted.allowed _ aborted _ asked, undefined⟩

end Pool
end Retention
