import StreamOperator.Reconcile.Run
import StreamOperator.StreamClass.Registry

/-!
# The supervisor of stream kinds

For each registered stream class one pipeline runs, which reconciles the definitions of its kind.
The supervisor keeps a handle for each class id; the handle's number tells its pipeline from the
ones it replaced. A pipeline that ends on a failure reports it, waits and is started again, unless
its handle is gone by then.

Pipelines and calls advance in steps. Between two steps of one, any step of another may come: the
steps end where a lock is released or something is waited for, and a status is written in two steps,
one that reads and one that writes.
-/

set_option autoImplicit false

namespace StreamOperator

/-- Where the writing of a status stands. -/
inductive StatusWrite where
  | reading
  | writing (status : Json)
  deriving DecidableEq

/-- What a class status is to say. -/
structure ClassReport where
  phase : ClassPhase
  reason : String
  message : String
  deriving DecidableEq, Repr

namespace ClassReport

def attached : ClassReport := ⟨.ready, Condition.Reason.attached, "Stream pipeline attached"⟩

def restarted : ClassReport := ⟨.ready, Condition.Reason.attached, "Stream pipeline restarted"⟩

def failed (e : Failure) : ClassReport := ⟨.failed, Condition.Reason.pipelineFailed, e.message⟩

def stopped : ClassReport := ⟨.stopped, Condition.Reason.stopped, "Operator stopped"⟩

end ClassReport

namespace StatusWrite

/-- One step of writing a report to the status of a class, and where the writing stands afterwards;
none when it is over. A failure ends it. -/
def step (h : Handler Cluster) (c : StreamClass) (report : ClassReport) (w : StatusWrite)
    (k : Cluster) : Option StatusWrite × Cluster :=
  match w with
  | reading =>
    match h.prepareClassStatus c.reference report.phase
      (report.phase.conditions report.reason report.message) k with
    | (.ok (some status), k) => (some (writing status), k)
    | (.ok none, k) | (.error _, k) => (none, k)
  | writing status => (none, (h.commitClassStatus c.reference status k).2)

end StatusWrite

/-- Where a pipeline stands. -/
inductive PipelineStage where
  | starting (restarted : Bool)
  /-- A restarted pipeline reports that it runs. -/
  | announcing (w : StatusWrite)
  | running (run : Run Resource)
  | reporting (e : Failure) (w : StatusWrite)
  /-- Until it is started again at the given time. -/
  | waiting (due : Nat)
  | restarting
  | finished

structure Pipeline where
  streamClass : StreamClass
  seq : Nat
  cancelled : Bool := false
  stage : PipelineStage

namespace Pipeline

def isFinished (p : Pipeline) : Bool :=
  match p.stage with
  | .finished => true
  | _ => false

/-- The ticket of the subscription it reads. -/
def ticket? (p : Pipeline) : Option Nat :=
  match p.stage with
  | .running run => run.ticket?
  | _ => none

/-- The time it waits for. -/
def due? (p : Pipeline) : Option Nat :=
  match p.stage with
  | .waiting due => some due
  | _ => none

/-- The toll of the next step. -/
def toll (p : Pipeline) (cancelled : Bool) (clock : Nat) (k : Cluster) : Toll :=
  match p.stage with
  | .running run => run.toll cancelled k
  | .waiting due => .ofWait (!cancelled && due ≤ clock)
  | .restarting => .single
  | _ => .free

end Pipeline

/-- What stands for the pipeline of a class. -/
structure Handle where
  streamClass : StreamClass
  generation : Option Int
  seq : Nat

structure Supervisor where
  registry : ClassRegistry
  handles : Table String Handle := []
  /-- The supervisor was told to stop; so were all of its pipelines. -/
  stopped : Bool := false
  /-- The number of the next pipeline. -/
  nextSeq : Nat := 0
  pipelines : Table Nat Pipeline := []
  dedupCapacity : Nat
  /-- Milliseconds between the end of a pipeline and its restart. -/
  restartDelay : Nat
  classBufferCapacity : Nat

namespace Supervisor

def create (classCapacity dedupCapacity restartDelay classBufferCapacity : Nat) : Supervisor where
  registry := ClassRegistry.empty classCapacity
  dedupCapacity := dedupCapacity
  restartDelay := restartDelay
  classBufferCapacity := classBufferCapacity

def handler (s : Supervisor) (now : String) : Handler Cluster where
  api := Cluster.api
  classes := s.registry.get?
  now := now

def pipeline? (s : Supervisor) (seq : Nat) : Option Pipeline := Table.get? seq s.pipelines

/-- Keeps what became of a pipeline; one that has ended is forgotten. -/
def setPipeline (s : Supervisor) (p : Pipeline) : Supervisor :=
  { s with
    pipelines :=
      if p.isFinished then Table.erase p.seq s.pipelines else Table.set p.seq p s.pipelines }

/-- The pipeline was told to stop, by itself or with all others. -/
def isCancelled (s : Supervisor) (p : Pipeline) : Bool := s.stopped || p.cancelled

/-- There is nothing to wait for: the pipeline has ended. -/
def hasFinished (s : Supervisor) (seq : Nat) : Bool := (s.pipeline? seq).isNone

/-- Tells a pipeline to stop. -/
def cancel (s : Supervisor) (seq : Nat) : Supervisor :=
  match s.pipeline? seq with
  | some p => s.setPipeline { p with cancelled := true }
  | none => s

/-- Tells every pipeline to stop, for good. -/
def cancelAll (s : Supervisor) : Supervisor := { s with stopped := true }

/-- Starts a pipeline for a class and makes it the one of the class. -/
def spawn (s : Supervisor) (c : StreamClass) (restarted : Bool) : Supervisor :=
  let p : Pipeline := { streamClass := c, seq := s.nextSeq, stage := .starting restarted }
  { s with
    nextSeq := s.nextSeq + 1
    pipelines := Table.set p.seq p s.pipelines
    handles := Table.set c.id ⟨c, c.metadata.generation, p.seq⟩ s.handles }

/-- The ids of the attached classes in order. -/
def attached (s : Supervisor) : List String := (s.handles.map Prod.fst).mergeSort fun a b => a ≤ b

def isAttached (s : Supervisor) (id : String) : Bool := Table.contains id s.handles

end Supervisor

end StreamOperator
