import StreamOperator.Kube.Metadata
import StreamOperator.Table

/-!
# Repeated events

A watch replays events when it reconnects. The deduplicator remembers the last version seen of each
resource and drops events that repeat it. It remembers at most as many resources as its capacity
allows; which one it forgets for a new one is left open, and is an argument here.
-/

set_option autoImplicit false

namespace StreamOperator

/-- What a resource is remembered by. -/
structure EventKey where
  kind : String
  space : String
  name : String
  deriving DecidableEq, Repr

structure Deduplicator where
  capacity : Nat
  /-- The last version seen of each resource. -/
  seen : Table EventKey String
  deriving Repr

namespace Deduplicator

/-- A deduplicator that has seen nothing; its capacity is at least one. -/
def empty (capacity : Nat) : Deduplicator := ⟨max capacity 1, []⟩

/-- Forgets one of the resources. -/
def evict (choice : Nat) (seen : Table EventKey String) : Table EventKey String :=
  seen.eraseIdx (choice % seen.length)

/-- Whether a version is new for its resource, with what is remembered after it. -/
def judge (d : Deduplicator) (choice : Nat) (key : EventKey) (version : String) :
    Bool × Deduplicator :=
  match Table.get? key d.seen with
  | some last =>
    if last = version then (false, d) else (true, { d with seen := Table.set key version d.seen })
  | none =>
    let kept := if d.capacity ≤ d.seen.length then evict choice d.seen else d.seen
    (true, { d with seen := Table.set key version kept })

def keyOf (kind : String) (m : Metadata) : EventKey := ⟨kind, m.space.getD "", m.nameAny⟩

/-- Whether an event passes. Events without a version cannot be compared; they pass and leave no
trace. -/
def filter (d : Deduplicator) (choice : Nat) (kind : String) (m : Metadata) : Bool × Deduplicator :=
  match m.resourceVersion with
  | none => (true, d)
  | some version => d.judge choice (keyOf kind m) version

end Deduplicator

end StreamOperator
