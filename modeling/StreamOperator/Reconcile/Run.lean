import StreamOperator.Cluster.Memory
import StreamOperator.Reconcile.Drive
import StreamOperator.Reconcile.Reconciler
import StreamOperator.Toll

/-!
# The run of a reconciler, step by step

A run subscribes, takes events from its subscription and carries out the commands they call for,
one command a step, so that other runs can come in between. A cancelled run ends before its next
event; the commands of an event that was taken are carried out first.
-/

set_option autoImplicit false

namespace StreamOperator

/-- Where events come from in the cluster. -/
structure Feed (α : Type) where
  /-- Opens a subscription for a capacity. -/
  subscribe : Nat → Act Cluster Nat
  /-- Takes from the subscription with a ticket. -/
  take : Nat → Cluster → Delivery α × Cluster
  /-- The subscription with a ticket has lost events. -/
  overflowed : Nat → Cluster → Bool
  /-- Gives the subscription up. -/
  leave : Nat → Cluster → Cluster

namespace Feed

/-- Takes from the buffer with a ticket. -/
def takeFrom {α : Type} (ticket : Nat) (watches : List (Watch α)) : Delivery α × List (Watch α) :=
  match Watch.buffer? ticket watches with
  | none => (.finished, watches)
  | some buffer =>
    let (delivery, buffer) := buffer.next
    (delivery, Watch.setBuffer ticket buffer watches)

/-- The buffer with a ticket has rejected an event. -/
def overflowedIn {α : Type} (ticket : Nat) (watches : List (Watch α)) : Bool :=
  (Watch.buffer? ticket watches).any Buffer.overflowed

/-- Gives up the buffer with a ticket. -/
def leaveFrom {α : Type} (ticket : Nat) (watches : List (Watch α)) : List (Watch α) :=
  watches.filter fun w => w.ticket ≠ ticket

/-- The resources of a type. -/
def resources (c : Coordinates) : Feed Resource where
  subscribe := Cluster.watchResources c
  take ticket k :=
    let (delivery, watches) := takeFrom ticket k.resourceWatches
    (delivery, { k with resourceWatches := watches })
  overflowed ticket k := overflowedIn ticket k.resourceWatches
  leave ticket k := { k with resourceWatches := leaveFrom ticket k.resourceWatches }

/-- All jobs. -/
def jobs : Feed Job where
  subscribe := Cluster.watchJobs
  take ticket k :=
    let (delivery, watches) := takeFrom ticket k.jobWatches
    (delivery, { k with jobWatches := watches })
  overflowed ticket k := overflowedIn ticket k.jobWatches
  leave ticket k := { k with jobWatches := leaveFrom ticket k.jobWatches }

/-- The toll of taking an item. What is left after an overflow is there for the taking, and so is the
end of a cancelled run. -/
def toll {α : Type} (feed : Feed α) (ticket : Nat) (cancelled : Bool) (k : Cluster) : Toll :=
  .ofWait (!cancelled && !feed.overflowed ticket k)

end Feed

/-- Where a run stands. -/
inductive RunStage (α : Type) where
  | subscribing
  /-- Between two events of a subscription. -/
  | idle (ticket : Nat)
  | received (ticket : Nat) (event : Event α)
  | executing (ticket : Nat) (commands : List Command)
  | ended (result : Except Failure Unit)

structure Run (α : Type) where
  reconciler : Reconciler Cluster α
  feed : Feed α
  capacity : Nat
  dedup : Deduplicator
  stage : RunStage α := .subscribing

namespace Run

variable {α : Type}

/-- The run of the stream definitions of a class. -/
def ofClass (c : StreamClass) (dedupCapacity : Nat) : Run Resource where
  reconciler := Reconciler.stream c.target
  feed := Feed.resources c.target
  capacity := c.bufferCapacity
  dedup := Deduplicator.empty dedupCapacity

/-- The run of the jobs of every kind. -/
def ofJobs (capacity dedupCapacity : Nat) : Run Job where
  reconciler := Reconciler.job
  feed := Feed.jobs
  capacity := capacity
  dedup := Deduplicator.empty dedupCapacity

def result? (r : Run α) : Option (Except Failure Unit) :=
  match r.stage with
  | .ended result => some result
  | _ => none

/-- The ticket of the subscription. -/
def ticket? (r : Run α) : Option Nat :=
  match r.stage with
  | .idle ticket | .received ticket _ | .executing ticket _ => some ticket
  | _ => none

/-- The toll of the next step. -/
def toll (r : Run α) (cancelled : Bool) (k : Cluster) : Toll :=
  match r.stage with
  | .idle ticket => r.feed.toll ticket cancelled k
  | .executing _ (c :: _) => c.toll
  | _ => .free

/-- Goes on after what was done for an event. -/
def afterItem (r : Run α) (ticket : Nat) (result : Except Failure Unit) (k : Cluster) :
    Run α × Cluster :=
  match Drive.verdict result with
  | some e => ({ r with stage := .ended (.error e) }, r.feed.leave ticket k)
  | none => ({ r with stage := .idle ticket }, k)

/-- One step of a run; none when it waits for an event or has ended. -/
def step (h : Handler Cluster) (cancelled : Bool) (r : Run α) (k : Cluster) :
    Option (Run α × Cluster) :=
  match r.stage with
  | .subscribing =>
    match r.feed.subscribe r.capacity k with
    | (.ok ticket, k) => some ({ r with stage := .idle ticket }, k)
    | (.error e, k) => some ({ r with stage := .ended (.error e) }, k)
  | .idle ticket =>
    if cancelled then some ({ r with stage := .ended (.ok ()) }, r.feed.leave ticket k)
    else
      match r.feed.take ticket k with
      | (.pending, _) => none
      | (.item (.ok event), k) => some ({ r with stage := .received ticket event }, k)
      | (.item (.error e), k) => some (r.afterItem ticket (.error e) k)
      | (.finished, k) =>
        some (r.afterItem ticket (.error (.subscriptionClosed r.reconciler.name)) k)
  | .received ticket event =>
    let (passes, dedup) :=
      r.dedup.filter 0 r.reconciler.kind (r.reconciler.metadata event.resource)
    let r := { r with dedup := dedup }
    if !passes then some ({ r with stage := .idle ticket }, k)
    else
      match r.reconciler.plan h.api event k with
      | (.ok commands, k) => some ({ r with stage := .executing ticket commands }, k)
      | (.error e, k) => some (r.afterItem ticket (.error e) k)
  | .executing ticket [] => some ({ r with stage := .idle ticket }, k)
  | .executing ticket (c :: rest) =>
    match h.handle c k with
    | (.ok (), k) => some ({ r with stage := .executing ticket rest }, k)
    | (.error e, k) => some (r.afterItem ticket (.error e) k)
  | .ended _ => none

/-- The run starts anew, with what it remembers. -/
def restart (r : Run α) : Run α := { r with stage := .subscribing }

end Run

end StreamOperator
