/-!
# Tolls

Whoever has much to do must not keep the others waiting. Each turn has an allowance, and some steps
take from it: an item of a subscription, a lock, and the end of another that was awaited take one
each. Once the allowance is used up the turn is over, and the others come first.
-/

set_option autoImplicit false

namespace StreamOperator

/-- What a step takes from the allowance of its turn. -/
inductive Toll where
  /-- The step takes nothing. -/
  | free
  /-- The step takes nothing either, but it is not taken once the allowance is used up. -/
  | guarded
  | single
  deriving DecidableEq, Repr

namespace Toll

/-- The allowance of a turn. -/
def perTurn : Nat := 128

def cost : Toll → Nat
  | free | guarded => 0
  | single => 1

/-- The step can be taken with what is left of the allowance. -/
def isCovered (t : Toll) (allowance : Nat) : Bool := t == free || 0 < allowance

/-- Takes a step that can be taken, and says what is left afterwards. -/
def pay {α : Type} (t : Toll) (allowance : Nat) (step : Option α) : Option (α × Nat) :=
  if t.isCovered allowance then step.map fun next => (next, allowance - t.cost) else none

/-- The toll of a wait for one of several things, of which something has come or not. -/
def ofWait (arrived : Bool) : Toll := if arrived then single else guarded

end Toll

end StreamOperator
