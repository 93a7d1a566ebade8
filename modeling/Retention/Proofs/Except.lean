/-!
Computations that can fail, step after step: they succeed where each step does, and otherwise fail as the
first step that fails.
-/
namespace Retention

theorem bind_eq_ok_iff {ε α β : Type} {result : Except ε α} {next : α → Except ε β} {value : β} :
    (result >>= next) = .ok value ↔ ∃ found, result = .ok found ∧ next found = .ok value := by
  cases result <;> simp [bind, Except.bind]

theorem bind_eq_error_iff {ε α β : Type} {result : Except ε α} {next : α → Except ε β} {failure : ε} :
    (result >>= next) = .error failure ↔
      result = .error failure ∨ ∃ found, result = .ok found ∧ next found = .error failure := by
  cases result <;> simp [bind, Except.bind]

/-- A fold that fails does so at some item, with what the items before it have made. -/
theorem exists_of_foldlM_eq_error {ε α β : Type} {step : β → α → Except ε β} {start : β}
    {items : List α} {failure : ε} (failed : items.foldlM step start = .error failure) :
    ∃ before item after made, items = before ++ item :: after ∧
      before.foldlM step start = .ok made ∧ step made item = .error failure := by
  induction items generalizing start with
  | nil => cases failed
  | cons item items ih =>
    rw [List.foldlM_cons] at failed
    cases first : step start item with
    | error refused =>
      rw [first] at failed
      cases failed
      exact ⟨[], item, items, start, rfl, rfl, first⟩
    | ok next =>
      rw [first] at failed
      obtain ⟨before, last, after, made, rfl, ran, refused⟩ := ih failed
      refine ⟨item :: before, last, after, made, rfl, ?_, refused⟩
      rw [List.foldlM_cons, first]
      exact ran

end Retention
