import StreamOperator.Error

/-!
# Events and their buffers

A watch reports changes of resources as events. It feeds them into a bounded buffer, and a pipeline
takes them out in the same order. A watch that must not wait pushes: a full buffer rejects the event,
and from then on every other one. The consumer gets the events that were accepted, then one overflow
failure, and then the end. Lists that may be longer than the buffer are sent instead: each event waits
for space.
-/

set_option autoImplicit false

namespace StreamOperator

/-- The kind of change a watch reports. -/
inductive EventType where
  | added
  | modified
  | deleted
  deriving DecidableEq, Repr

def EventType.text : EventType → String
  | added => "Added"
  | modified => "Modified"
  | deleted => "Deleted"

/-- A change of a resource. -/
structure Event (α : Type) where
  type : EventType
  resource : α
  deriving DecidableEq, Repr

/-- The reading side of a buffer. -/
inductive Consumer where
  | reading
  /-- The end was delivered. -/
  | ended
  /-- The consumer went away. -/
  | dropped
  deriving DecidableEq, Repr

/-- A buffer between senders and one consumer. -/
structure Buffer (α : Type) where
  source : String
  capacity : Nat
  items : List (Except Failure (Event α)) := []
  overflowed : Bool := false
  /-- The number of senders. -/
  senders : Nat := 1
  consumer : Consumer := .reading

/-- What the consumer gets. -/
inductive Delivery (α : Type) where
  | item (content : Except Failure (Event α))
  /-- There is nothing yet. -/
  | pending
  | finished

namespace Buffer

variable {α : Type}

/-- A buffer with one sender; its capacity is at least one. -/
def create (source : String) (capacity : Nat) : Buffer α :=
  { source := source, capacity := max capacity 1 }

/-- Nobody will read the buffer any more. -/
def isClosed (b : Buffer α) : Bool := b.consumer ≠ .reading

def isFull (b : Buffer α) : Bool := b.capacity ≤ b.items.length

def overflowFailure (b : Buffer α) : Failure := .bufferOverflow b.source b.capacity

def closedFailure (b : Buffer α) : Failure := .subscriptionClosed b.source

/-- Appends an item to the queue. -/
def accept (b : Buffer α) (item : Except Failure (Event α)) : Buffer α :=
  { b with items := b.items ++ [item] }

/-- Offers an event without waiting. -/
def push (b : Buffer α) (e : Event α) : Except Failure Unit × Buffer α :=
  if b.overflowed then (.error b.overflowFailure, b)
  else if b.isClosed then (.error b.closedFailure, b)
  else if b.isFull then (.error b.overflowFailure, { b with overflowed := true })
  else (.ok (), b.accept (.ok e))

/-- Offers an event that may wait; no answer means that it has to wait for space. -/
def send (b : Buffer α) (e : Event α) : Option (Except Failure Unit) × Buffer α :=
  if b.overflowed then (some (.error b.overflowFailure), b)
  else if b.isClosed then (some (.error b.closedFailure), b)
  else if b.isFull then (none, b)
  else (some (.ok ()), b.accept (.ok e))

/-- One sender goes away. -/
def dropSender (b : Buffer α) : Buffer α := { b with senders := b.senders - 1 }

def addSender (b : Buffer α) : Buffer α := { b with senders := b.senders + 1 }

/-- Ends the subscription with a failure, which is delivered after the accepted events; no answer
means that it has to wait for space. An overflow is not sent: the consumer finds it by itself. The
sender is used up. -/
def fail (b : Buffer α) (failure : Failure) : Option (Buffer α) :=
  match failure with
  | .bufferOverflow _ _ => some b.dropSender
  | failure =>
    if b.isClosed then some b.dropSender
    else if b.isFull then none
    else some (b.accept (.error failure)).dropSender

/-- The consumer goes away. -/
def dropConsumer (b : Buffer α) : Buffer α := { b with consumer := .dropped, items := [] }

/-- Takes the next item. -/
def next (b : Buffer α) : Delivery α × Buffer α :=
  if b.isClosed then (.finished, b)
  else
    match b.items with
    | item :: rest => (.item item, { b with items := rest })
    | [] =>
      if b.overflowed then (.item (.error b.overflowFailure), { b with consumer := .ended })
      else if b.senders = 0 then (.finished, { b with consumer := .ended })
      else (.pending, b)

end Buffer

end StreamOperator
