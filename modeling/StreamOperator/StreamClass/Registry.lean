import StreamOperator.StreamClass.Basic

/-!
# The registry of stream classes

A bounded map from stream kinds to the classes that serve them. A kind is served by one class at a
time: a class with another id is refused until the first one gives the kind up.
-/

set_option autoImplicit false

namespace StreamOperator

structure ClassRegistry where
  capacity : Nat
  entries : Dictionary StreamClass

namespace ClassRegistry

/-- A registry without classes; its capacity is at least one. -/
def empty (capacity : Nat) : ClassRegistry := ⟨max capacity 1, .empty⟩

def size (r : ClassRegistry) : Nat := r.entries.toList.length

/-- The class that serves a kind. -/
def get? (r : ClassRegistry) (kind : String) : Option StreamClass := r.entries.get? kind

/-- Registers a class for its kind, or replaces the one with the same id. -/
def insert (r : ClassRegistry) (c : StreamClass) : Except Failure ClassRegistry :=
  let inserted : ClassRegistry := { r with entries := r.entries.insert c.spec.kindRef c }
  match r.get? c.spec.kindRef with
  | some serving =>
    if serving.id ≠ c.id then
      .error (.configuration
        ("Kind " ++ c.spec.kindRef ++ " is already served by StreamClass "
          ++ serving.metadata.space.getD "" ++ "/" ++ serving.metadata.nameAny))
    else .ok inserted
  | none =>
    if r.capacity ≤ r.size then
      .error (.configuration
        (s!"Stream class cache is full ({r.capacity} kinds); cannot register " ++ c.spec.kindRef))
    else .ok inserted

/-- Whether a class serves its kind, going by its id. -/
def serves (r : ClassRegistry) (c : StreamClass) : Bool :=
  (r.get? c.spec.kindRef).any fun serving => serving.id == c.id

/-- Gives a kind up, if it is the class that serves it. -/
def remove (r : ClassRegistry) (c : StreamClass) : ClassRegistry :=
  if r.serves c then { r with entries := r.entries.erase c.spec.kindRef } else r

end ClassRegistry

end StreamOperator
