import Mathlib.Algebra.Order.BigOperators.Group.List
import Mathlib.Algebra.Order.Group.Nat
import Retention.Failure
import Retention.Proofs.Text

/-!
What is told of a failure. Each context that is added to a failure is told once, in front of what was told before.
A layer that fixes an exit code has no message of its own and speaks with that of the layer under it, whose
message is therefore told twice.
-/
namespace Retention
namespace Failure

/-- The failure with contexts added around it, the outermost first. -/
def within (contexts : List String) (failure : Failure) : Failure := contexts.foldr .context failure

/-- The messages of the layers that have one of their own, outermost first. -/
def layers : Failure → List String
  | .withCode _ inner => inner.layers
  | .context message inner => message :: inner.layers
  | cause => [cause.display]

/-- The exit codes that are fixed, outermost first. -/
def codes : Failure → List ExitCode
  | .withCode code inner => code :: inner.codes
  | .context _ inner => inner.codes
  | _ => []

/-- The text tells the messages in this order: one behind `error:`, and what caused it below. -/
inductive Tells : String → List String → Prop
  | alone (message : String) : Tells (Text.unlines (["error:", "  " ++ message] ++ advice)) [message]
  | caused (message cause : String) (causes : List String) :
      Tells (Text.unlines (["error:", "  " ++ message, "caused by:"] ++
        (cause :: causes).map ("  - " ++ ·) ++ advice)) (message :: cause :: causes)

variable {failure : Failure} {text : String} {messages others : List String}

theorem exists_chain (failure : Failure) : ∃ causes, failure.chain = failure.display :: causes := by
  cases failure <;> exact ⟨_, rfl⟩

theorem chain_within (contexts : List String) (failure : Failure) :
    (within contexts failure).chain = contexts ++ failure.chain := by
  induction contexts with
  | nil => rfl
  | cons context contexts ih => exact congrArg (context :: ·) ih

theorem layers_within (contexts : List String) (failure : Failure) :
    (within contexts failure).layers = contexts ++ failure.layers := by
  induction contexts with
  | nil => rfl
  | cons context contexts ih => exact congrArg (context :: ·) ih

theorem codes_within (contexts : List String) (failure : Failure) :
    (within contexts failure).codes = failure.codes := by
  induction contexts with
  | nil => rfl
  | cons context contexts ih => exact ih

/-- What is printed of a failure tells its chain. -/
theorem tells_chain (failure : Failure) : Tells failure.text failure.chain := by
  obtain ⟨causes, chain⟩ := exists_chain failure
  rw [Failure.text, Failure.causes, chain]
  cases causes with
  | nil => exact .alone failure.display
  | cons cause causes => exact .caused failure.display cause causes

theorem sublist_chain (failure : Failure) : failure.layers.Sublist failure.chain := by
  induction failure with
  | withCode code inner ih => exact ih.cons inner.display
  | context message inner ih => exact ih.cons_cons message
  | plain message | policy cause | listing cause => exact List.Sublist.refl _

theorem length_chain (failure : Failure) :
    failure.chain.length = failure.layers.length + failure.codes.length := by
  induction failure with
  | withCode code inner ih => rw [chain, layers, codes, List.length_cons, List.length_cons, ih, Nat.add_assoc]
  | context message inner ih =>
    rw [chain, layers, codes, List.length_cons, List.length_cons, ih, Nat.add_right_comm]
  | plain message | policy cause | listing cause => rfl

section Length

/-- The characters of the lines in which the messages are told, but for the words that stand around them. -/
def room (messages : List String) : Nat := (messages.map String.length).sum + 5 * messages.length

theorem room_lt (part : messages.Sublist others) (shorter : messages.length < others.length) :
    room messages < room others := by
  have total := (part.map String.length).sum_le_sum fun _ _ => Nat.zero_le _
  rw [room, room]
  omega

theorem length_unlines_map (causes : List String) :
    (Text.unlines (causes.map ("  - " ++ ·))).length = room causes := by
  rw [Text.length_unlines, room]
  induction causes with
  | nil => rfl
  | cons cause causes ih =>
    have line : ("  - " ++ cause).length = 4 + cause.length := String.length_append _ _
    simp only [List.map_cons, List.sum_cons, List.length_cons, line, ih]
    omega

theorem Tells.length_eq (tells : Tells text messages) :
    text.length + 2 = (Text.unlines ("error:" :: advice)).length + room messages +
      if messages.length = 1 then 0 else 11 := by
  have line (message : String) : ("  " ++ message).length = 2 + message.length := String.length_append _ _
  have error : "error:".length = 6 := rfl
  have below : "caused by:".length = 10 := rfl
  cases tells with
  | alone message =>
    simp only [Text.length_unlines, List.map_append, List.map_cons, List.sum_append, List.sum_cons, line, room, error,
      List.length_cons, List.length_nil, List.map_nil, List.sum_nil, if_pos]
    omega
  | caused message cause causes =>
    have causes' := length_unlines_map (cause :: causes)
    rw [Text.length_unlines] at causes'
    simp only [Text.length_unlines, List.map_append, List.map_cons, List.sum_append, List.sum_cons, line, room, error,
      below, List.length_cons, List.map_nil, List.sum_nil] at causes' ⊢
    rw [if_neg (by omega)]
    omega

/-- What is told is not told without one of its messages. -/
theorem Tells.eq_of_sublist (all : Tells text others) (some : Tells text messages) (part : messages.Sublist others) :
    messages = others := by
  -- A message that is left out takes room, so the text would be shorter.
  refine part.eq_of_length_le (Nat.not_lt.mp fun shorter => ?_)
  have more := room_lt part shorter
  have told := some.length_eq
  have told' := all.length_eq
  have filled : 0 < messages.length := by cases some <;> exact Nat.succ_pos _
  rw [if_neg (by omega)] at told'
  split at told <;> omega

end Length

/-- Each message is told once exactly of a failure in which no layer fixes an exit code. -/
theorem tells_layers_iff (failure : Failure) : Tells failure.text failure.layers ↔ failure.codes = [] := by
  constructor
  · intro tells
    have whole := (tells_chain failure).eq_of_sublist tells (sublist_chain failure)
    have length := length_chain failure
    rw [whole] at length
    exact List.eq_nil_of_length_eq_zero (by omega)
  · intro none
    have length := length_chain failure
    rw [none, List.length_nil, Nat.add_zero] at length
    rw [(sublist_chain failure).eq_of_length length.symm]
    exact tells_chain failure

/-- Contexts around a failure are told in front of it, and each message once exactly if no layer fixes an exit
code. Around a layer that does, the message of what it wraps is told twice, and so it is never each message once. -/
theorem tells_within (contexts : List String) (failure : Failure) :
    (Tells (within contexts failure).text (contexts ++ failure.layers) ↔ failure.codes = []) ∧
    ∀ code, ∃ causes, failure.chain = failure.display :: causes ∧
      Tells (within contexts (.withCode code failure)).text (contexts ++ failure.display :: failure.display :: causes) ∧
      ¬ Tells (within contexts (.withCode code failure)).text (contexts ++ failure.display :: causes) := by
  constructor
  · have once := tells_layers_iff (within contexts failure)
    rwa [layers_within, codes_within] at once
  · intro code
    obtain ⟨causes, chain⟩ := exists_chain failure
    have told := tells_chain (within contexts (.withCode code failure))
    rw [chain_within, Failure.chain, chain] at told
    refine ⟨causes, chain, told, fun once => ?_⟩
    have same := told.eq_of_sublist once (((List.Sublist.refl _).cons _).append_left contexts)
    simpa using congrArg List.length same

/-- An invalid argument is told as the cause of itself. -/
theorem invalidArguments_told_twice :
    ¬ Tells (within ["while parsing arguments"] (invalidArguments "bad target")).text
      ["while parsing arguments", "bad target"] := by
  intro once
  have told := tells_chain (within ["while parsing arguments"] (invalidArguments "bad target"))
  exact absurd (told.eq_of_sublist once (by decide)) (by decide)

end Failure
end Retention
