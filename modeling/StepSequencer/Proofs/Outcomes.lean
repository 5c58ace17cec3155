/-!
# Computations that may fail

A computation made of steps has a result only if every step has one. `bind_eq_ok` and
`eq_ok_of_map_eq_ok` open such a computation from its result, and `eq_error_of_map_eq_error` from
its fault.
-/

set_option autoImplicit false
set_option relaxedAutoImplicit false

namespace StepSequencer

/-- Changing the result is a step that never fails. -/
theorem map_eq_bind {ε α β : Type} (f : α → β) (x : Except ε α) :
    x.map f = x.bind fun a ↦ .ok (f a) := by
  cases x <;> rfl

/-- Two steps have a result if the first has one and the second has one from there. -/
theorem bind_eq_ok {ε α β : Type} {x : Except ε α} {f : α → Except ε β} {b : β}
    (h : x >>= f = .ok b) : ∃ a, x = .ok a ∧ f a = .ok b := by
  cases x with
  | error e => cases h
  | ok a => exact ⟨a, rfl, h⟩

/-- A changed result comes from a result. -/
theorem eq_ok_of_map_eq_ok {ε α β : Type} {outcome : Except ε α} {f : α → β} {b : β}
    (h : outcome.map f = .ok b) : ∃ a, outcome = .ok a ∧ f a = b := by
  cases outcome with
  | error e => cases h
  | ok a =>
    cases h
    exact ⟨a, rfl, rfl⟩

/-- A fault is the same before the result is changed. -/
theorem eq_error_of_map_eq_error {ε α β : Type} {outcome : Except ε α} {f : α → β} {e : ε}
    (h : outcome.map f = .error e) : outcome = .error e := by
  cases outcome with
  | error fault =>
    cases h
    rfl
  | ok a => cases h

end StepSequencer
