import ClientPlan.Failure

/-!
# Results with warnings

A step of planning may warn about something and may fail; what it warned about before it failed is
kept.
-/

set_option autoImplicit false

namespace ClientPlan

/-- The outcome of a step, with the warnings in the order in which they came up. -/
structure Logged (α : Type) where
  /-- The warnings. -/
  warnings : List String
  /-- The outcome. -/
  outcome : Except Failure α

namespace Logged

variable {α β : Type}

/-- An outcome without warnings. -/
def ofExcept (e : Except Failure α) : Logged α := ⟨[], e⟩

/-- A single warning. -/
def warn (message : String) : Logged Unit := ⟨[message], .ok ()⟩

/-- One step after another; a step after a failure does not take place. -/
def bind (x : Logged α) (f : α → Logged β) : Logged β :=
  match x.outcome with
  | .ok a => ⟨x.warnings ++ (f a).warnings, (f a).outcome⟩
  | .error e => ⟨x.warnings, .error e⟩

instance : Monad Logged where
  pure a := ⟨[], .ok a⟩
  bind := bind

instance : MonadLift (Except Failure) Logged := ⟨ofExcept⟩

end Logged

end ClientPlan
