import StreamOperator.Cluster.Access
import StreamOperator.Event.Buffer

/-!
# Driving a subscription

The items of a subscription are processed one at a time. A fatal failure ends the subscription, and
so does its own end; after any other failure the next item is processed.
-/

set_option autoImplicit false

namespace StreamOperator.Drive

variable {σ α : Type}

/-- How a subscription goes on after an item: it ends with a failure, or goes on. -/
def verdict : Except Failure Unit → Option Failure
  | .ok () => none
  | .error e => if e.isFatal then some e else none

/-- What an item comes to. -/
def item (process : Event α → Act σ Unit) : Except Failure (Event α) → Act σ Unit
  | .ok event => process event
  | .error e => throw e

/-- Processes the items of a subscription until it is cancelled, which is noticed before the item of
the given number. -/
def run (name : String) (process : Event α → Act σ Unit) :
    Option Nat → List (Except Failure (Event α)) → Act σ Unit
  | some 0, _ => return
  | _, [] => throw (.subscriptionClosed name)
  | cancelled, x :: rest => do
    let result ← (item process x).attempt
    match verdict result with
    | some e => throw e
    | none => run name process (cancelled.map Nat.pred) rest

end StreamOperator.Drive
