import Mathlib.Data.List.Perm.Basic
import Mathlib.Data.List.ReduceOption
import Retention.Proofs.Sweep.UnitDialogue

/-!
What holds of every pool that a run reaches. The jobs of a pool are its units in work and those that are
done; a move leaves the jobs as they are, apart from a job that begins or one that asks a question. So
the units are the planned ones, each of them once, and every job is a dialogue of its unit.
-/
namespace Retention
namespace Pool

/-- The moves that are possible, and what they do. -/
inductive Moved (request : Request) (pool : Pool) : Move → Pool → Prop
  | take {worker : Nat} {unit : WorkUnit} {waiting : List WorkUnit}
      (idle : pool.workers[worker]? = some none) (first : pool.waiting = unit :: waiting) :
      Moved request pool (.take worker)
        { pool with
          waiting
          workers := pool.workers.set worker (some ⟨unit, [], unit.sweep request⟩) }
  | ask {worker : Nat} {answer : (call : Call) → call.Answer} {unit : WorkUnit}
      {events : List Event} {call : Call} {next : call.Answer → Task UnitResult}
      (asking : pool.workers[worker]? = some (some ⟨unit, events, .ask call next⟩)) :
      Moved request pool (.ask worker answer)
        { pool with
          workers := pool.workers.set worker
            (some ⟨unit, events ++ [⟨call, answer call⟩], next (answer call)⟩)
          events := pool.events ++ [(unit, ⟨call, answer call⟩)] }
  | send {worker : Nat} {unit : WorkUnit} {events : List Event} {result : UnitResult}
      (ready : pool.workers[worker]? = some (some ⟨unit, events, .done result⟩)) :
      Moved request pool (.send worker)
        { pool with
          workers := pool.workers.set worker none
          sent := pool.sent ++ [⟨unit, events, result⟩] }
  | receive {delivery : Delivery} {sent : List Delivery} (first : pool.sent = delivery :: sent) :
      Moved request pool .receive { pool with sent, received := pool.received ++ [delivery] }

theorem move_eq_some_iff {request : Request} {pool next : Pool} {move : Move} :
    pool.move request move = some next ↔ Moved request pool move next := by
  constructor
  · intro moved
    cases move with
    | take worker =>
      simp only [Pool.move, take] at moved
      split at moved
      · rename_i unit waiting idle first
        cases moved
        exact .take idle first
      · cases moved
    | ask worker answer =>
      simp only [Pool.move, ask] at moved
      split at moved
      · rename_i unit events call answered asking
        cases moved
        exact .ask asking
      · cases moved
    | send worker =>
      simp only [Pool.move, send] at moved
      split at moved
      · rename_i unit events result ready
        cases moved
        exact .send ready
      · cases moved
    | receive =>
      simp only [Pool.move, receive] at moved
      split at moved
      · rename_i delivery sent first
        cases moved
        exact .receive first
      · cases moved
  · intro moved
    cases moved with
    | take idle first => simp [Pool.move, take, idle, first]
    | ask asking => simp [Pool.move, ask, asking]
    | send ready => simp [Pool.move, send, ready]
    | receive first => simp [Pool.move, receive, first]

theorem reached_of_play {behaviour : Behaviour} {request : Request} {pool next : Pool}
    {moves : List Move} (before : Reached behaviour request pool)
    (fits : ∀ move ∈ moves, move.Fits behaviour) (played : pool.play request moves = some next) :
    Reached behaviour request next := by
  induction moves generalizing pool with
  | nil =>
    cases played
    exact before
  | cons move moves ih =>
    simp only [play, List.foldlM_cons] at played
    obtain ⟨middle, moved, rest⟩ := Option.bind_eq_some_iff.mp played
    exact ih (.move before (fits move (by simp)) moved)
      (fun later member => fits later (by simp [member])) rest

end Pool

theorem Move.fits_any (move : Move) : move.Fits .any := by
  cases move with
  | ask => exact fun _ => trivial
  | take | send | receive => trivial

/-- A unit that is done has nothing left to ask. -/
def Delivery.job (delivery : Delivery) : Worker :=
  ⟨delivery.unit, delivery.events, .done delivery.result⟩

def Worker.log (job : Worker) : List (WorkUnit × Event) := job.events.map (job.unit, ·)

namespace Pool

/-- The units in work and those that are done. -/
def jobs (pool : Pool) : List Worker :=
  pool.workers.reduceOption ++ (pool.sent ++ pool.received).map Delivery.job

theorem dialogues_eq (pool : Pool) :
    pool.dialogues = pool.jobs.map fun job => (job.unit, job.events) := by
  simp [dialogues, jobs, Delivery.job, Function.comp_def]

theorem reduceOption_perm {α : Type} {items : List (Option α)} {place : Nat}
    {old : Option α} (found : items[place]? = some old) :
    items.reduceOption.Perm (old.toList ++ (items.eraseIdx place).reduceOption) := by
  obtain ⟨inside, rfl⟩ := List.getElem?_eq_some_iff.mp found
  have moved := (List.getElem_cons_eraseIdx_perm inside).symm.filterMap id
  cases same : items[place] <;> simpa [List.reduceOption, same] using moved

theorem reduceOption_set_perm {α : Type} {items : List (Option α)} {place : Nat}
    {old : Option α} (found : items[place]? = some old) (new : Option α) :
    (items.set place new).reduceOption.Perm
      (new.toList ++ (items.eraseIdx place).reduceOption) := by
  obtain ⟨inside, -⟩ := List.getElem?_eq_some_iff.mp found
  have moved := (List.set_perm_cons_eraseIdx inside new).filterMap id
  cases new <;> simpa [List.reduceOption] using moved

variable {behaviour : Behaviour} {request : Request} {pool next : Pool}

/-- The effect of a move on the jobs, whose order does not matter. -/
inductive Progress (behaviour : Behaviour) (request : Request) (pool next : Pool) : Prop
  | passed (waiting : next.waiting = pool.waiting) (events : next.events = pool.events)
      (jobs : next.jobs.Perm pool.jobs)
  | begun {unit : WorkUnit} (waiting : pool.waiting = unit :: next.waiting)
      (events : next.events = pool.events)
      (jobs : next.jobs.Perm (⟨unit, [], unit.sweep request⟩ :: pool.jobs))
  | asked {unit : WorkUnit} {past : List Event} {call : Call}
      {answered : call.Answer → Task UnitResult} {others : List Worker} (answer : call.Answer)
      (possible : behaviour call answer) (waiting : next.waiting = pool.waiting)
      (events : next.events = pool.events ++ [(unit, ⟨call, answer⟩)])
      (before : pool.jobs.Perm (⟨unit, past, .ask call answered⟩ :: others))
      (after : next.jobs.Perm (⟨unit, past ++ [⟨call, answer⟩], answered answer⟩ :: others))

theorem progress_of_move {move : Move} (fits : move.Fits behaviour)
    (moved : pool.move request move = some next) : Progress behaviour request pool next := by
  cases move_eq_some_iff.mp moved with
  | @take worker unit waiting idle first =>
    have before := reduceOption_perm idle
    have after := reduceOption_set_perm idle (some ⟨unit, [], unit.sweep request⟩)
    refine .begun first rfl ?_
    exact (after.trans (before.symm.cons _)).append_right _
  | @ask worker answer unit past call answered asking =>
    have before := reduceOption_perm asking
    have after := reduceOption_set_perm asking
      (some ⟨unit, past ++ [⟨call, answer call⟩], answered (answer call)⟩)
    exact .asked (answer call) (fits call) rfl rfl (before.append_right _) (after.append_right _)
  | @send worker unit past result ready =>
    have before := reduceOption_perm ready
    have after := reduceOption_set_perm ready none
    refine .passed rfl rfl ?_
    simp only [jobs, List.map_append, List.map_cons, List.map_nil, Delivery.job]
    refine (after.append_right _).trans (List.Perm.trans ?_ (before.append_right _).symm)
    have middle : (((pool.workers.eraseIdx worker).reduceOption ++ pool.sent.map Delivery.job) ++
        ⟨unit, past, .done result⟩ :: pool.received.map Delivery.job).Perm _ := List.perm_middle
    simpa using middle
  | @receive delivery sent first =>
    refine .passed rfl rfl ?_
    simp only [jobs, first, List.map_append, List.map_cons, List.map_nil, List.cons_append]
    refine List.Perm.append_left _ ?_
    rw [← List.append_assoc]
    exact List.perm_append_singleton _ _

/-- What every pool of a run keeps. -/
structure Accounted (behaviour : Behaviour) (request : Request) (pool : Pool) : Prop where
  units : (pool.waiting ++ pool.jobs.map (·.unit)).Perm request.units
  steps : ∀ job ∈ pool.jobs, Task.Steps (job.unit.sweep request) job.events job.task
  allowed : ∀ job ∈ pool.jobs, behaviour.Allows job.events
  events : pool.events.Perm (pool.jobs.flatMap Worker.log)

theorem accounted_start (behaviour : Behaviour) (request : Request) :
    Accounted behaviour request (start request) := by
  have none : (start request).jobs = [] := by simp [jobs, start]
  constructor
  · rw [none]
    simp [start]
  · simp [none]
  · simp [none]
  · rw [none]
    simp [start]

theorem Accounted.progress (before : Accounted behaviour request pool)
    (progress : Progress behaviour request pool next) : Accounted behaviour request next := by
  cases progress with
  | passed waiting events jobs =>
    constructor
    · rw [waiting]
      exact ((jobs.map _).append_left _).trans before.units
    · exact fun job member => before.steps job (jobs.mem_iff.mp member)
    · exact fun job member => before.allowed job (jobs.mem_iff.mp member)
    · rw [events]
      exact before.events.trans (jobs.flatMap_right _).symm
  | @begun unit waiting events jobs =>
    constructor
    · refine ((jobs.map _).append_left _).trans (List.Perm.trans ?_ before.units)
      rw [waiting]
      exact List.perm_middle
    · intro job member
      rcases List.mem_cons.mp (jobs.mem_iff.mp member) with rfl | old
      · exact .refl _
      · exact before.steps job old
    · intro job member
      rcases List.mem_cons.mp (jobs.mem_iff.mp member) with rfl | old
      · exact fun _ none => absurd none List.not_mem_nil
      · exact before.allowed job old
    · rw [events]
      exact before.events.trans (jobs.flatMap_right Worker.log).symm
  | @asked unit past call answered others answer possible waiting events old new =>
    -- The job that asks is pulled to the front; what holds of the others is left alone.
    have asking : (⟨unit, past, .ask call answered⟩ : Worker) ∈ pool.jobs :=
      old.mem_iff.mpr List.mem_cons_self
    have kept (job : Worker) (member : job ∈ others) : job ∈ pool.jobs :=
      old.mem_iff.mpr (List.mem_cons_of_mem _ member)
    constructor
    · rw [waiting]
      refine ((new.map _).append_left _).trans (List.Perm.trans ?_ before.units)
      exact ((old.map (·.unit)).append_left _).symm
    · intro job member
      rcases List.mem_cons.mp (new.mem_iff.mp member) with rfl | other
      · exact (before.steps _ asking).snoc answer
      · exact before.steps job (kept job other)
    · intro job member
      rcases List.mem_cons.mp (new.mem_iff.mp member) with rfl | other
      · refine Behaviour.allows_append.mpr ⟨before.allowed _ asking, ?_⟩
        simpa [Behaviour.Allows] using possible
      · exact before.allowed job (kept job other)
    · rw [events]
      have earlier := before.events.trans (old.flatMap_right _)
      refine List.Perm.trans ?_ (new.flatMap_right _).symm
      simp only [List.flatMap_cons, Worker.log, List.map_append, List.map_cons, List.map_nil,
        List.append_assoc] at earlier ⊢
      refine (earlier.append_right _).trans ?_
      rw [List.append_assoc]
      exact List.Perm.append_left _ List.perm_append_comm

theorem Reached.accounted (reached : Reached behaviour request pool) :
    Accounted behaviour request pool := by
  induction reached with
  | start => exact accounted_start behaviour request
  | move _ fits moved ih => exact ih.progress (progress_of_move fits moved)

theorem jobs_of_isFinished (finished : pool.isFinished = true) :
    pool.waiting = [] ∧ pool.jobs = pool.received.map Delivery.job := by
  simp only [isFinished, Bool.and_eq_true, List.isEmpty_iff, List.all_eq_true] at finished
  obtain ⟨⟨waiting, idle⟩, sent⟩ := finished
  have resting : pool.workers.reduceOption = [] := by
    refine List.filterMap_eq_nil_iff.mpr fun worker member => ?_
    exact Option.isNone_iff_eq_none.mp (idle worker member)
  exact ⟨waiting, by simp [jobs, resting, sent]⟩

/-- When nothing is left to do, every planned unit has been received, each as often as planned. -/
theorem Reached.received_units (reached : Reached behaviour request pool)
    (finished : pool.isFinished = true) : (pool.received.map (·.unit)).Perm request.units := by
  obtain ⟨waiting, jobs⟩ := jobs_of_isFinished finished
  have units := reached.accounted.units
  rw [waiting, jobs, List.nil_append, List.map_map] at units
  exact units

/-- Whatever has been asked for a unit is the beginning of one of its dialogues. -/
theorem Reached.dialogue (reached : Reached behaviour request pool) (responds : behaviour.Responds)
    {unit : WorkUnit} {events : List Event} (member : (unit, events) ∈ pool.dialogues) :
    unit ∈ request.units ∧ ∃ dialogue outcome, events <+: dialogue ∧ behaviour.Allows dialogue ∧
      WorkUnit.SweptKinds unit request unit.kinds dialogue outcome := by
  have accounted := reached.accounted
  rw [dialogues_eq] at member
  obtain ⟨job, inside, same⟩ := List.mem_map.mp member
  cases same
  have planned : job.unit ∈ pool.waiting ++ pool.jobs.map (·.unit) :=
    List.mem_append_right _ (List.mem_map_of_mem inside)
  obtain ⟨dialogue, outcome, start, allowed, ends⟩ :=
    (accounted.steps job inside).exists_ends responds (accounted.allowed job inside)
  exact ⟨accounted.units.mem_iff.mp planned, dialogue, outcome, start, allowed,
    WorkUnit.ends_sweep_iff.mp ends⟩

/-- A unit that is done has been through one of its dialogues, up to its result. -/
theorem Reached.delivered (reached : Reached behaviour request pool) {delivery : Delivery}
    (member : delivery ∈ pool.sent ++ pool.received) :
    delivery.unit ∈ request.units ∧ behaviour.Allows delivery.events ∧
      WorkUnit.SweptKinds delivery.unit request delivery.unit.kinds delivery.events
        (some delivery.result) := by
  have accounted := reached.accounted
  have inside : delivery.job ∈ pool.jobs :=
    List.mem_append_right _ (List.mem_map_of_mem member)
  have planned : delivery.unit ∈ pool.waiting ++ pool.jobs.map (·.unit) :=
    List.mem_append_right _ (List.mem_map_of_mem (f := (·.unit)) inside)
  exact ⟨accounted.units.mem_iff.mp planned, accounted.allowed _ inside,
    WorkUnit.ends_sweep_iff.mp (accounted.steps _ inside).ends_of_done⟩

theorem Reached.mem_job (reached : Reached behaviour request pool) {unit : WorkUnit}
    {event : Event} (member : (unit, event) ∈ pool.events) :
    ∃ job ∈ pool.jobs, job.unit = unit ∧ event ∈ job.events := by
  have inside := reached.accounted.events.mem_iff.mp member
  obtain ⟨job, present, asked⟩ := List.mem_flatMap.mp inside
  obtain ⟨own, there, same⟩ := List.mem_map.mp asked
  cases same
  exact ⟨job, present, rfl, there⟩

/-- Whatever is answered in a run is an answer of the behaviour. -/
theorem Reached.allows (reached : Reached behaviour request pool) :
    behaviour.Allows (pool.events.map (·.2)) := by
  intro event member
  obtain ⟨⟨unit, _⟩, inside, rfl⟩ := List.mem_map.mp member
  obtain ⟨job, present, -, asked⟩ := reached.mem_job inside
  exact reached.accounted.allowed job present _ asked

/-- Every question of a run belongs to the dialogue of its unit. -/
theorem Reached.mem_dialogue (reached : Reached behaviour request pool) {unit : WorkUnit}
    {event : Event} (member : (unit, event) ∈ pool.events) :
    ∃ events, (unit, events) ∈ pool.dialogues ∧ event ∈ events := by
  obtain ⟨job, present, rfl, asked⟩ := reached.mem_job member
  refine ⟨job.events, ?_, asked⟩
  rw [dialogues_eq]
  exact List.mem_map_of_mem (f := fun job : Worker => (job.unit, job.events)) present

theorem Reached.asked_in_dialogue (reached : Reached behaviour request pool)
    (responds : behaviour.Responds) {unit : WorkUnit} {event : Event}
    (member : (unit, event) ∈ pool.events) :
    unit ∈ request.units ∧ ∃ dialogue outcome, event ∈ dialogue ∧ behaviour.Allows dialogue ∧
      WorkUnit.SweptKinds unit request unit.kinds dialogue outcome := by
  obtain ⟨events, own, inside⟩ := reached.mem_dialogue member
  obtain ⟨planned, dialogue, outcome, start, allowed, swept⟩ := reached.dialogue responds own
  exact ⟨planned, dialogue, outcome, start.subset inside, allowed, swept⟩

end Pool
end Retention
