import StreamOperator.Supervisor.Basic

/-!
# Calls to the supervisor

A class is attached and detached, and the supervisor is stopped, in steps. The pipeline that is
replaced or detached is told to stop and has ended before the call goes on.
-/

set_option autoImplicit false

namespace StreamOperator

/-- Where the attaching of a class stands. -/
inductive AttachStage where
  | checking
  /-- About to look at the handle of the class. -/
  | claiming
  /-- Until the pipeline that is replaced has ended. -/
  | awaiting (seq : Nat)
  | registering
  | refusing (e : Failure) (w : StatusWrite)
  | spawning
  | announcing (w : StatusWrite)
  | done (result : Except Failure Unit)

/-- Where the detaching of a class stands. -/
inductive DetachStage where
  | claiming
  /-- Until the pipeline of the handle has ended. -/
  | awaiting (handle : Handle)
  | releasing (handle : Handle)
  | done

/-- Where the stopping of the supervisor stands. -/
inductive StopStage where
  | cancelling
  | draining
  /-- Until the pipeline of the first handle has ended. -/
  | awaiting (handles : List Handle)
  | releasing (handle : Handle) (rest : List Handle)
  | reporting (handle : Handle) (rest : List Handle) (w : StatusWrite)
  | done

inductive Call where
  | attach (c : StreamClass) (stage : AttachStage)
  | detach (c : StreamClass) (stage : DetachStage)
  | stop (stage : StopStage)

namespace AttachStage

/-- The handles are locked twice and the registry once, and an end may be awaited. -/
def toll : AttachStage → Toll
  | .claiming | .awaiting _ | .registering | .spawning => .single
  | _ => .free

end AttachStage

namespace DetachStage

def toll : DetachStage → Toll
  | .done => .free
  | _ => .single

end DetachStage

namespace StopStage

def toll : StopStage → Toll
  | .draining | .awaiting (_ :: _) | .releasing _ _ => .single
  | _ => .free

end StopStage

namespace Call

/-- The toll of the next step. -/
def toll : Call → Toll
  | attach _ stage => stage.toll
  | detach _ stage => stage.toll
  | stop stage => stage.toll

/-- The call before its first step. -/
def ofAttach (c : StreamClass) : Call := attach c .checking

def ofDetach (c : StreamClass) : Call := detach c .claiming

def ofStop : Call := stop .cancelling

/-- The result of a call that is over. -/
def result? : Call → Option (Except Failure Unit)
  | attach _ (.done result) => some result
  | detach _ .done | stop .done => some (.ok ())
  | _ => none

end Call

namespace Supervisor

/-- The failure of a call to a supervisor that was told to stop. -/
def stoppedFailure : Failure := .invalidState "Supervisor is stopped"

/-- A class whose pipeline runs for the same generation is attached already; else its handle is
taken, and the pipeline behind it is told to stop. -/
def claim (s : Supervisor) (c : StreamClass) : AttachStage × Supervisor :=
  match Table.get? c.id s.handles with
  | none => (.registering, s)
  | some handle =>
    if handle.generation = c.metadata.generation ∧ s.hasFinished handle.seq = false then
      (.done (.ok ()), s)
    else
      let s : Supervisor := { s with handles := Table.erase c.id s.handles }
      (.awaiting handle.seq, s.cancel handle.seq)

/-- Starts the pipeline of a class. A handle that came in between loses its pipeline. -/
def install (s : Supervisor) (c : StreamClass) : Supervisor :=
  match Table.get? c.id s.handles with
  | some raced => (s.spawn c false).cancel raced.seq
  | none => s.spawn c false

def stepAttach (s : Supervisor) (now : String) (c : StreamClass) (k : Cluster) :
    AttachStage → Option (AttachStage × Supervisor × Cluster)
  | .checking => some (if s.stopped then .done (.error stoppedFailure) else .claiming, s, k)
  | .claiming =>
    let (stage, s) := s.claim c
    some (stage, s, k)
  | .awaiting seq => if s.hasFinished seq then some (.registering, s, k) else none
  | .registering =>
    match s.registry.insert c with
    | .ok registry => some (.spawning, { s with registry := registry }, k)
    | .error e => some (.refusing e .reading, s, k)
  | .refusing e w =>
    match w.step (s.handler now) c (.failed e) k with
    | (some w, k) => some (.refusing e w, s, k)
    | (none, k) => some (.done (.error e), s, k)
  | .spawning => some (.announcing .reading, s.install c, k)
  | .announcing w =>
    match w.step (s.handler now) c .attached k with
    | (some w, k) => some (.announcing w, s, k)
    | (none, k) => some (.done (.ok ()), s, k)
  | .done _ => none

/-- Takes the handle of a class and tells its pipeline to stop. -/
def release (s : Supervisor) (c : StreamClass) : DetachStage × Supervisor :=
  match Table.get? c.id s.handles with
  | none => (.done, s)
  | some handle =>
    let s : Supervisor := { s with handles := Table.erase c.id s.handles }
    (.awaiting handle, s.cancel handle.seq)

def stepDetach (s : Supervisor) (c : StreamClass) (k : Cluster) :
    DetachStage → Option (DetachStage × Supervisor × Cluster)
  | .claiming =>
    let (stage, s) := s.release c
    some (stage, s, k)
  | .awaiting handle => if s.hasFinished handle.seq then some (.releasing handle, s, k) else none
  | .releasing handle =>
    some (.done, { s with registry := s.registry.remove handle.streamClass }, k)
  | .done => none

/-- Tells the pipeline of the first handle to stop, and waits for it. -/
def awaitFirst (s : Supervisor) : List Handle → StopStage × Supervisor
  | [] => (.done, s)
  | handle :: rest => (.awaiting (handle :: rest), s.cancel handle.seq)

def stepStop (s : Supervisor) (now : String) (k : Cluster) :
    StopStage → Option (StopStage × Supervisor × Cluster)
  | .cancelling => some (.draining, s.cancelAll, k)
  | .draining =>
    let (stage, s) := { s with handles := [] }.awaitFirst (s.handles.map Prod.snd)
    some (stage, s, k)
  | .awaiting [] => some (.done, s, k)
  | .awaiting (handle :: rest) =>
    if s.hasFinished handle.seq then some (.releasing handle rest, s, k) else none
  | .releasing handle rest =>
    some (.reporting handle rest .reading,
      { s with registry := s.registry.remove handle.streamClass }, k)
  | .reporting handle rest w =>
    match w.step (s.handler now) handle.streamClass .stopped k with
    | (some w, k) => some (.reporting handle rest w, s, k)
    | (none, k) =>
      let (stage, s) := s.awaitFirst rest
      some (stage, s, k)
  | .done => none

/-- One step of a call; none when it waits or is over. -/
def stepCall (s : Supervisor) (now : String) (call : Call) (k : Cluster) :
    Option (Call × Supervisor × Cluster) :=
  match call with
  | .attach c stage => (s.stepAttach now c k stage).map fun (stage, r) => (.attach c stage, r)
  | .detach c stage => (s.stepDetach c k stage).map fun (stage, r) => (.detach c stage, r)
  | .stop stage => (s.stepStop now k stage).map fun (stage, r) => (.stop stage, r)

end Supervisor

end StreamOperator
