/-
Module: AiGateway.Foundations.Expiry
Layer: Foundations
Purpose: Expiry of rows: a store may delete a row at any moment after the instant that the row
  itself names, and leaves every other row alone.
Trusted boundary: human-reviewed spec
Main exports: Expired, Expired.lookup
-/
import AiGateway.Foundations.ConditionalStore

namespace AiGateway.ConditionalStore

/-- A row whose expiry attribute lies before the clock is deleted. -/
inductive Expired (name : String) (instant : Int) (before : Table) : Table → Prop where
  | delete (key : Key) (expiry : Int) (stored : before.cell key name = some (.N expiry))
      (passed : expiry < instant) : Expired name instant before (before.erase key)

namespace Expired

variable {name : String} {instant : Int} {before after : Table}

/-- A row stays as it is or was due and is gone. -/
theorem lookup (expired : Expired name instant before after) (key : Key) :
    after.lookup key = before.lookup key ∨
      after.lookup key = none ∧
        ∃ expiry, before.cell key name = some (.N expiry) ∧ expiry < instant := by
  cases expired with
  | delete other expiry stored passed =>
      by_cases same : key = other
      case pos =>
          subst same
          exact .inr ⟨AList.lookup_erase .., expiry, stored, passed⟩
      case neg => exact .inl (AList.lookup_erase_ne same)

end Expired

end AiGateway.ConditionalStore
