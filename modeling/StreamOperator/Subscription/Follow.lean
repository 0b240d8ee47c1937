import StreamOperator.Cluster.Exchange
import StreamOperator.Event.Buffer
import StreamOperator.Key
import StreamOperator.Subscription.Watcher

/-!
# Following a watcher

What a watcher lists waits for space in the buffer; a change that comes by itself does not wait. The
subscription ends when the watched type is missing or an event is rejected. The consumer begins to
take events when the watcher waits for space for the first time, or rests at the end; from then on it
takes all there are whenever the watcher waits: for space, or before it tries again after a failure.
-/

set_option autoImplicit false

namespace StreamOperator

/-- What is watched. -/
structure WatchTarget where
  coordinates : Coordinates
  /-- One namespace, or all. -/
  space : Option String := none
  selector : Option String := none

namespace WatchTarget

/-- The jobs that the operator manages. -/
def jobs (space : Option String) : WatchTarget := ⟨.jobs, space, some Key.managedJobs⟩

/-- The request for a list, or for the changes since. -/
def request (t : WatchTarget) (watching : Bool) : Except BuildFault Request :=
  let watch := if watching then [("watch", "true")] else []
  let selector := match t.selector with
    | some s => [("labelSelector", s)]
    | none => []
  Request.build .get (t.coordinates.path t.space ++ Target.query (watch ++ selector)) none

end WatchTarget

/-- A subscription: what is known and held back, and what was asked and delivered so far. -/
structure Subscription (α : Type) where
  tracker : Tracker := {}
  buffer : Buffer α
  requests : List Request := []
  /-- The consumer has begun. -/
  isConsumed : Bool := false
  delivered : List (Except Failure (Event α)) := []

namespace Subscription

variable {α : Type}

/-- The consumer takes the items that the buffer holds. -/
def drain (s : Subscription α) : Subscription α :=
  { s with
    delivered := s.delivered ++ s.buffer.items
    buffer := { s.buffer with items := [] }
    isConsumed := true }

/-- The watcher waits before it tries again. -/
def rest (s : Subscription α) : Subscription α := if s.isConsumed then s.drain else s

/-- Ends the subscription with a failure; the consumer makes space for it. -/
def fail (s : Subscription α) (failure : Failure) : Subscription α :=
  match s.buffer.fail failure with
  | some buffer => { s with buffer := buffer }
  | none =>
    let s := s.drain
    { s with buffer := (s.buffer.fail failure).getD s.buffer }

/-- Offers an event that waits; the consumer makes space for it. -/
def send (s : Subscription α) (e : Event α) : Except Failure Unit × Subscription α :=
  match s.buffer.send e with
  | (some result, buffer) => (result, { s with buffer := buffer })
  | (none, _) =>
    let s := s.drain
    let (result, buffer) := s.buffer.send e
    (result.getD (.ok ()), { s with buffer := buffer })

def push (s : Subscription α) (e : Event α) : Except Failure Unit × Subscription α :=
  let (result, buffer) := s.buffer.push e
  (result, { s with buffer := buffer })

/-- Offers the event of a change: one of a list waits. -/
def offer (metadata : α → Metadata) (s : Subscription α) (c : Change α) : Except Failure Unit × Subscription α :=
  let after := { s with tracker := s.tracker.advance metadata c }
  match s.tracker.event? metadata c with
  | none => (.ok (), after)
  | some e => if s.tracker.isListing then after.send e else after.push e

/-- The failure by which a failed watch ends the subscription; after any other it goes on. -/
def ending (target : WatchTarget) : Option Nat → Option Failure
  | some 404 => some (.watchTargetMissing target.coordinates.plural)
  | _ => none

/-- Follows a watcher until the subscription ends, or the watcher waits for a reply. One whose requests
cannot be built tries for ever. -/
def follow (metadata : α → Metadata) (target : WatchTarget) :
    Subscription α → List (Signal α) → Subscription α
  | s, [] => s
  | s, .ask watching :: rest =>
    match target.request watching with
    | .ok request => follow metadata target { s with requests := s.requests ++ [request] } rest
    | .error _ => s
  | s, .change c :: rest =>
    match s.offer metadata c with
    | (.ok (), s) => follow metadata target s rest
    | (.error e, s) => s.fail e
  | s, .failed code :: rest =>
    match ending target code with
    | some e => s.fail e
    | none => follow metadata target s.rest rest

/-- Everything the consumer gets, and whether more can come. -/
def finish (s : Subscription α) : List (Except Failure (Event α)) × Bool :=
  let s := s.drain
  match s.buffer.next with
  | (.item content, _) => (s.delivered ++ [content], false)
  | (.finished, _) => (s.delivered, false)
  | (.pending, _) => (s.delivered, true)

/-- A subscription to a target, fed by the replies of a server. -/
def run (decode : Decoder α) (metadata : α → Metadata) (target : WatchTarget) (capacity : Nat)
    (replies : List WatchReply) : Subscription α :=
  follow metadata target { buffer := Buffer.create target.coordinates.plural capacity }
    (Watcher.signals decode metadata .listing replies)

end Subscription

end StreamOperator
