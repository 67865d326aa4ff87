/-
Module: AiGateway.Foundations.Fallible
Layer: Foundations
Purpose: Computations that can fail, one behind another: what a sequence gives is what its steps
  give.
Trusted boundary: none
Main exports: bind_eq_ok, bind_eq_error
-/
import Mathlib.Tactic.Common

namespace AiGateway.Fallible

variable {Error α β : Type} {first : Except Error α} {next : α → Except Error β}

/-- A sequence succeeds where both steps do. -/
theorem bind_eq_ok {result : β} :
    (first >>= next) = .ok result ↔ ∃ value, first = .ok value ∧ next value = .ok result := by
  cases first with
  | error error => simp [bind, Except.bind]
  | ok value => simp [bind, Except.bind]

/-- A sequence fails where a step does. -/
theorem bind_eq_error {error : Error} :
    (first >>= next) = .error error ↔
      first = .error error ∨ ∃ value, first = .ok value ∧ next value = .error error := by
  cases first with
  | error error => simp [bind, Except.bind]
  | ok value => simp [bind, Except.bind]

end AiGateway.Fallible
