import StreamOperator.Supervisor.Call

/-!
# Following the stream classes

The supervisor watches stream classes: one that is added or modified is attached, one that is
deleted is detached. Each call is over before the next event is taken. A class that cannot be read or
attached does not end the watch.
-/

set_option autoImplicit false

namespace StreamOperator

/-- Where the watch stands. -/
inductive ClassWatchStage where
  | subscribing
  | idle (ticket : Nat)
  | received (ticket : Nat) (event : Event Resource)
  | calling (ticket : Nat) (call : Call)
  | ended (result : Except Failure Unit)

structure ClassWatch where
  dedup : Deduplicator
  stage : ClassWatchStage := .subscribing

namespace ClassWatch

def name : String := "kind-supervisor"

/-- The kind that stream classes are remembered under. -/
def kind : String := StreamClass.kind

def feed : Feed Resource := Feed.resources StreamClass.coordinates

def result? (w : ClassWatch) : Option (Except Failure Unit) :=
  match w.stage with
  | .ended result => some result
  | _ => none

def ticket? (w : ClassWatch) : Option Nat :=
  match w.stage with
  | .idle ticket | .received ticket _ | .calling ticket _ => some ticket
  | _ => none

/-- The toll of the next step. -/
def toll (w : ClassWatch) (cancelled : Bool) (k : Cluster) : Toll :=
  match w.stage with
  | .idle ticket => feed.toll ticket cancelled k
  | .calling _ call => call.toll
  | _ => .free

/-- The call that an event asks for. -/
def callOf (event : Event Resource) : Except Failure Call := do
  let c ← event.resource.parse StreamClass.decode
  match event.type with
  | .added | .modified => return .ofAttach c
  | .deleted => return .ofDetach c

/-- Goes on after what was done for an event. -/
def afterItem (w : ClassWatch) (ticket : Nat) (result : Except Failure Unit) (k : Cluster) :
    ClassWatch × Cluster :=
  match Drive.verdict result with
  | some e => ({ w with stage := .ended (.error e) }, feed.leave ticket k)
  | none => ({ w with stage := .idle ticket }, k)

end ClassWatch

/-- One step of the watch; none when it waits or has ended. -/
def Supervisor.stepWatch (s : Supervisor) (now : String) (w : ClassWatch) (k : Cluster) :
    Option (ClassWatch × Supervisor × Cluster) :=
  match w.stage with
  | .subscribing =>
    match ClassWatch.feed.subscribe s.classBufferCapacity k with
    | (.ok ticket, k) =>
      some (⟨Deduplicator.empty s.dedupCapacity, .idle ticket⟩, s, k)
    | (.error e, k) => some ({ w with stage := .ended (.error e) }, s, k)
  | .idle ticket =>
    if s.stopped then
      some ({ w with stage := .ended (.ok ()) }, s, ClassWatch.feed.leave ticket k)
    else
      match ClassWatch.feed.take ticket k with
      | (.pending, _) => none
      | (.item (.ok event), k) => some ({ w with stage := .received ticket event }, s, k)
      | (.item (.error e), k) =>
        let (w, k) := w.afterItem ticket (.error e) k
        some (w, s, k)
      | (.finished, k) =>
        let (w, k) := w.afterItem ticket (.error (.subscriptionClosed ClassWatch.name)) k
        some (w, s, k)
  | .received ticket event =>
    let (passes, dedup) := w.dedup.filter 0 ClassWatch.kind event.resource.metadata
    let w : ClassWatch := { w with dedup := dedup }
    if !passes then some ({ w with stage := .idle ticket }, s, k)
    else
      match ClassWatch.callOf event with
      | .ok call => some ({ w with stage := .calling ticket call }, s, k)
      | .error e =>
        let (w, k) := w.afterItem ticket (.error e) k
        some (w, s, k)
  | .calling ticket call =>
    match call.result? with
    | some result =>
      let (w, k) := w.afterItem ticket result k
      some (w, s, k)
    | none =>
      (s.stepCall now call k).map fun (call, s, k) =>
        ({ w with stage := .calling ticket call }, s, k)
  | .ended _ => none

end StreamOperator
