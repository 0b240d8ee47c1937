import StreamOperator.Event.Buffer
import StreamOperator.Kube.Metadata

/-!
# Tracking what is known

A watcher reports lists and single changes; a creation looks like any other change. The tracker
tells them apart: it knows the resources that the last complete list held, with the changes since. A
list that is broken off changes nothing.
-/

set_option autoImplicit false

namespace StreamOperator

/-- What a watcher reports. -/
inductive Change (α : Type) where
  /-- A list begins. -/
  | listBegin
  | listed (resource : α)
  /-- The list is complete. -/
  | listEnd
  | applied (resource : α)
  | deleted (resource : α)

/-- What a resource is known by; no namespace differs from an empty one. -/
structure Identity where
  space : Option String
  name : String
  deriving DecidableEq, Repr

def Metadata.identity (m : Metadata) : Identity := ⟨m.space, m.nameAny⟩

structure Tracker where
  known : List Identity := []
  /-- What the list in progress held so far. -/
  listed : Option (List Identity) := none
  deriving DecidableEq, Repr

namespace Tracker

variable {α : Type}

def isListing (t : Tracker) : Bool := t.listed.isSome

/-- Adds an identity to a set. -/
def adding (id : Identity) (set : List Identity) : List Identity :=
  if id ∈ set then set else set ++ [id]

def dropping (id : Identity) (set : List Identity) : List Identity := set.filter (· ≠ id)

/-- A known resource was modified, any other one was added. -/
def typeOf (t : Tracker) (id : Identity) : EventType :=
  if id ∈ t.known then .modified else .added

/-- What is known after a change of a resource with metadata. -/
def advance (metadata : α → Metadata) (t : Tracker) : Change α → Tracker
  | .listBegin => { t with listed := some [] }
  | .listed r => { t with listed := some (adding (metadata r).identity (t.listed.getD [])) }
  | .listEnd => { known := t.listed.getD t.known, listed := none }
  | .applied r => { t with known := adding (metadata r).identity t.known }
  | .deleted r => { t with known := dropping (metadata r).identity t.known }

/-- The event that a change is reported as. -/
def event? (metadata : α → Metadata) (t : Tracker) : Change α → Option (Event α)
  | .listBegin | .listEnd => none
  | .listed r | .applied r => some ⟨t.typeOf (metadata r).identity, r⟩
  | .deleted r => some ⟨.deleted, r⟩

end Tracker

end StreamOperator
