import Retention.Sweep.Pool

/-!
Dialogues of a task. `Steps` follows a task through some of its questions and answers; `Ends` is a
dialogue up to the value, or to the point where the work cannot go on. Sequencing of tasks splits a
dialogue, and this is all that is needed to read off what a unit may ask.
-/
namespace Retention
namespace Task

variable {α β : Type}

@[simp] theorem pure_eq_done (value : α) : (pure value : Task α) = .done value := rfl

@[simp] theorem bind_eq_bind (task : Task α) (next : α → Task β) :
    (task >>= next) = task.bind next := rfl

@[simp] theorem bind_done (value : α) (next : α → Task β) :
    (Task.done value).bind next = next value := rfl

@[simp] theorem bind_abort (next : α → Task β) : (Task.abort : Task α).bind next = .abort := rfl

@[simp] theorem bind_ask (call : Call) (answered : call.Answer → Task α) (next : α → Task β) :
    (Task.ask call answered).bind next = .ask call fun answer => (answered answer).bind next := rfl

/-- What is left to do of a task after some events. -/
inductive Steps : Task α → List Event → Task α → Prop
  | refl (task : Task α) : Steps task [] task
  | ask {call : Call} {next : call.Answer → Task α} {answer : call.Answer} {events : List Event}
      {rest : Task α} (later : Steps (next answer) events rest) :
      Steps (.ask call next) (⟨call, answer⟩ :: events) rest

/-- A dialogue to the end of a task, which is its value or, where the work cannot go on, nothing. -/
inductive Ends : Task α → List Event → Option α → Prop
  | done (value : α) : Ends (.done value) [] (some value)
  | abort : Ends .abort [] none
  | ask {call : Call} {next : call.Answer → Task α} {answer : call.Answer} {events : List Event}
      {outcome : Option α} (later : Ends (next answer) events outcome) :
      Ends (.ask call next) (⟨call, answer⟩ :: events) outcome

theorem Steps.snoc {task : Task α} {events : List Event} {call : Call}
    {next : call.Answer → Task α} (steps : Steps task events (.ask call next))
    (answer : call.Answer) : Steps task (events ++ [⟨call, answer⟩]) (next answer) := by
  generalize left : Task.ask call next = rest at steps
  induction steps with
  | refl => subst left; exact .ask (.refl _)
  | ask _ ih => exact .ask (ih left)

theorem Steps.trans_ends {task rest : Task α} {before after : List Event} {outcome : Option α}
    (steps : Steps task before rest) (ends : Ends rest after outcome) :
    Ends task (before ++ after) outcome := by
  induction steps with
  | refl => exact ends
  | ask _ ih => exact .ask (ih ends)

theorem Steps.ends_of_done {task : Task α} {events : List Event} {value : α}
    (steps : Steps task events (.done value)) : Ends task events (some value) := by
  simpa using steps.trans_ends (.done value)

@[simp] theorem ends_done_iff {value : α} {events : List Event} {outcome : Option α} :
    Ends (.done value) events outcome ↔ events = [] ∧ outcome = some value := by
  constructor
  · intro ends
    cases ends
    exact ⟨rfl, rfl⟩
  · intro found
    obtain ⟨rfl, rfl⟩ := found
    exact .done value

@[simp] theorem ends_abort_iff {events : List Event} {outcome : Option α} :
    Ends (.abort : Task α) events outcome ↔ events = [] ∧ outcome = none := by
  constructor
  · intro ends
    cases ends
    exact ⟨rfl, rfl⟩
  · intro found
    obtain ⟨rfl, rfl⟩ := found
    exact .abort

theorem ends_ask_iff {call : Call} {next : call.Answer → Task α} {events : List Event}
    {outcome : Option α} :
    Ends (.ask call next) events outcome ↔
      ∃ answer later, events = ⟨call, answer⟩ :: later ∧ Ends (next answer) later outcome := by
  constructor
  · intro ends
    cases ends with
    | ask later => exact ⟨_, _, rfl, later⟩
  · intro found
    obtain ⟨answer, later, rfl, ends⟩ := found
    exact .ask ends

/-- A dialogue of two tasks in a row breaks off in the first one, or gets its value and goes on. -/
theorem ends_bind_iff {task : Task α} {next : α → Task β} {events : List Event}
    {outcome : Option β} :
    Ends (task.bind next) events outcome ↔
      (Ends task events none ∧ outcome = none) ∨
        ∃ before after value, events = before ++ after ∧ Ends task before (some value) ∧
          Ends (next value) after outcome := by
  induction task generalizing events with
  | done value =>
    constructor
    · intro ends
      exact .inr ⟨[], events, value, rfl, .done value, ends⟩
    · intro found
      rcases found with ⟨ends, -⟩ | ⟨before, after, result, rfl, first, second⟩
      · simp at ends
      · obtain ⟨rfl, same⟩ := ends_done_iff.mp first
        cases same
        exact second
  | abort =>
    constructor
    · intro ends
      obtain ⟨rfl, rfl⟩ := ends_abort_iff.mp ends
      exact .inl ⟨.abort, rfl⟩
    · intro found
      rcases found with ⟨ends, rfl⟩ | ⟨before, after, result, -, first, -⟩
      · exact ends_abort_iff.mpr ⟨(ends_abort_iff.mp ends).1, rfl⟩
      · simp at first
  | ask call answered ih =>
    simp only [bind_ask, ends_ask_iff]
    constructor
    · intro found
      obtain ⟨answer, later, rfl, ends⟩ := found
      rcases (ih answer).mp ends with ⟨broken, rfl⟩ | ⟨before, after, value, rfl, first, second⟩
      · exact .inl ⟨⟨answer, later, rfl, broken⟩, rfl⟩
      · refine .inr ⟨⟨call, answer⟩ :: before, after, value, rfl, ?_, second⟩
        exact ⟨answer, before, rfl, first⟩
    · intro found
      rcases found with ⟨⟨answer, later, rfl, broken⟩, rfl⟩ |
        ⟨before, after, value, rfl, ⟨answer, later, rfl, first⟩, second⟩
      · exact ⟨answer, later, rfl, (ih answer).mpr (.inl ⟨broken, rfl⟩)⟩
      · refine ⟨answer, later ++ after, rfl, (ih answer).mpr (.inr ?_)⟩
        exact ⟨later, after, value, rfl, first, second⟩

end Task

/-- Every event has an answer of the behaviour. -/
def Behaviour.Allows (behaviour : Behaviour) (events : List Event) : Prop :=
  ∀ event ∈ events, behaviour event.call event.answer

/-- No call is left without a possible answer. -/
def Behaviour.Responds (behaviour : Behaviour) : Prop := ∀ call, ∃ answer, behaviour call answer

namespace Behaviour

variable {behaviour : Behaviour}

theorem allows_append {before after : List Event} :
    behaviour.Allows (before ++ after) ↔ behaviour.Allows before ∧ behaviour.Allows after := by
  simp only [Allows, List.mem_append, or_imp, forall_and]

theorem allows_cons {event : Event} {events : List Event} :
    behaviour.Allows (event :: events) ↔
      behaviour event.call event.answer ∧ behaviour.Allows events := by
  simp only [Allows, List.mem_cons, forall_eq_or_imp]

theorem any_responds : any.Responds := fun call => by
  cases call with
  | list => exact ⟨.ok [], trivial⟩
  | execute => exact ⟨.ok ⟨0⟩, trivial⟩
  | wait => exact ⟨.ok (), trivial⟩

theorem listing_responds (lister : Lister) : (listing lister).Responds := fun call => by
  cases call with
  | list account region kind => exact ⟨lister account region kind, rfl⟩
  | execute => exact ⟨.ok ⟨0⟩, trivial⟩
  | wait => exact ⟨.ok (), trivial⟩

end Behaviour

namespace Task

variable {α : Type} {behaviour : Behaviour}

theorem exists_ends (responds : behaviour.Responds) (task : Task α) :
    ∃ events outcome, behaviour.Allows events ∧ Ends task events outcome := by
  induction task with
  | done value => exact ⟨[], some value, by simp [Behaviour.Allows], .done value⟩
  | abort => exact ⟨[], none, by simp [Behaviour.Allows], .abort⟩
  | ask call next ih =>
    obtain ⟨answer, possible⟩ := responds call
    obtain ⟨events, outcome, allowed, ends⟩ := ih answer
    have permitted : behaviour.Allows (⟨call, answer⟩ :: events) :=
      Behaviour.allows_cons.mpr ⟨possible, allowed⟩
    exact ⟨⟨call, answer⟩ :: events, outcome, permitted, .ask ends⟩

/-- Events of an unfinished task are the beginning of a whole dialogue. -/
theorem Steps.exists_ends (responds : behaviour.Responds) {task rest : Task α} {events : List Event}
    (steps : Steps task events rest) (allowed : behaviour.Allows events) :
    ∃ dialogue outcome, events <+: dialogue ∧ behaviour.Allows dialogue ∧
      Ends task dialogue outcome := by
  obtain ⟨later, outcome, possible, ends⟩ := Task.exists_ends responds rest
  exact ⟨events ++ later, outcome, List.prefix_append _ _,
    Behaviour.allows_append.mpr ⟨allowed, possible⟩, steps.trans_ends ends⟩

/-- A run with one answer to each call is the dialogue with these answers. -/
theorem run_eq_iff_ends (answer : (call : Call) → call.Answer) (task : Task α)
    (outcome : Option α) :
    Id.run (task.run (m := Id) answer) = outcome ↔
      ∃ events, (Behaviour.fixed answer).Allows events ∧ Ends task events outcome := by
  induction task with
  | done value =>
    constructor
    · intro same
      subst same
      exact ⟨[], by simp [Behaviour.Allows], .done value⟩
    · intro found
      obtain ⟨events, -, ends⟩ := found
      exact (ends_done_iff.mp ends).2.symm
  | abort =>
    constructor
    · intro same
      subst same
      exact ⟨[], by simp [Behaviour.Allows], .abort⟩
    · intro found
      obtain ⟨events, -, ends⟩ := found
      exact (ends_abort_iff.mp ends).2.symm
  | ask call next ih =>
    refine (ih (answer call)).trans ?_
    constructor
    · intro found
      obtain ⟨events, allowed, ends⟩ := found
      exact ⟨⟨call, answer call⟩ :: events, Behaviour.allows_cons.mpr ⟨rfl, allowed⟩, .ask ends⟩
    · intro found
      obtain ⟨events, allowed, ends⟩ := found
      obtain ⟨given, later, rfl, rest⟩ := ends_ask_iff.mp ends
      obtain ⟨same, allowed⟩ := Behaviour.allows_cons.mp allowed
      have equal : given = answer call := same
      exact ⟨later, allowed, equal ▸ rest⟩

end Task
end Retention
