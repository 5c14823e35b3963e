/-
Computations that can fail, taken apart: what gave a result did so a step at a time.
-/

namespace Scaffold

variable {α β ε : Type}

theorem eq_ok_of_bind {x : Except ε α} {f : α → Except ε β} {b : β} (h : x >>= f = .ok b) :
    ∃ a, x = .ok a ∧ f a = .ok b := by
  cases x with
  | error e => cases h
  | ok a => exact ⟨a, rfl, h⟩

theorem bind_eq_ok_iff {x : Except ε α} {f : α → Except ε β} {b : β} :
    x >>= f = .ok b ↔ ∃ a, x = .ok a ∧ f a = .ok b := by
  constructor
  · exact eq_ok_of_bind
  · rintro ⟨a, rfl, h⟩
    exact h

theorem toOption_eq_some_iff {x : Except ε α} {a : α} : x.toOption = some a ↔ x = .ok a := by
  cases x <;> simp [Except.toOption]

/-- Two computations whose results correspond still do when corresponding steps follow. -/
theorem toOption_bind_map {α' β' : Type} {x : Except ε α} {x' : Except ε α'} {g : α → α'}
    {f : α → Except ε β} {f' : α' → Except ε β'} {h : β → β'} (same : x'.toOption = x.toOption.map g)
    (step : ∀ a, (f' (g a)).toOption = (f a).toOption.map h) :
    (x' >>= f').toOption = (x >>= f).toOption.map h := by
  cases x with
  | error e =>
    cases x' with
    | error e' => rfl
    | ok a' => cases same
  | ok a =>
    cases x' with
    | error e' => cases same
    | ok a' =>
      cases same
      exact step a

theorem toOption_mapM_map {β' : Type} {f : α → Except ε β} {f' : α → Except ε β'} {g : β → β'}
    (step : ∀ a, (f' a).toOption = (f a).toOption.map g) (as : List α) :
    (as.mapM f').toOption = (as.mapM f).toOption.map (·.map g) := by
  induction as with
  | nil => rfl
  | cons a rest ih =>
    rw [List.mapM_cons, List.mapM_cons]
    refine toOption_bind_map (step a) fun b => ?_
    exact toOption_bind_map ih fun bs => rfl

theorem toOption_mapError {ε' : Type} (x : Except ε α) (f : ε → ε') :
    (x.mapError f).toOption = x.toOption := by
  cases x <;> rfl

end Scaffold
