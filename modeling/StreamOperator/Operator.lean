import StreamOperator.Config
import StreamOperator.Supervisor.ClassWatch
import StreamOperator.Supervisor.Pipeline

/-!
# The operator

The operator follows the stream classes and the jobs, each in a loop that is started again after it
ends. Once it is told to stop and both loops are over, it stops the supervisor. In a turn of the
operator each loop goes as far as it can; the loops take turns at coming first.
-/

set_option autoImplicit false

namespace StreamOperator

/-- Where a loop that is kept running stands. -/
inductive KeptStage where
  | running
  /-- Until it is started again at the given time. -/
  | waiting (due : Nat)
  | finished
  deriving DecidableEq, Repr

namespace KeptStage

/-- The time that is waited for. -/
def due? : KeptStage → Option Nat
  | waiting due => some due
  | _ => none

/-- Where a loop stands once its run ended: finished after a cancelled run that ended well, else it
waits. -/
def afterRun (cancelled : Bool) (clock delay : Nat) (result : Except Failure Unit) : KeptStage :=
  match result with
  | .ok () => if cancelled then finished else waiting (clock + delay)
  | .error _ => waiting (clock + delay)

end KeptStage

/-- The loops of an operator. -/
inductive OperatorLoop where
  | classes
  | jobs
  deriving DecidableEq, Repr

structure Operator where
  classes : ClassWatch
  classStage : KeptStage := .running
  jobs : Run Job
  jobStage : KeptStage := .running
  /-- The loop that comes first; the loops take turns at it. -/
  first : OperatorLoop := .classes
  stopping : Call := .ofStop

namespace Operator

/-- The supervisor of an operator with a configuration. -/
def supervisorOf (c : Config) : Supervisor :=
  Supervisor.create c.classCacheCapacity c.dedupCapacity (1000 * c.restartDelaySeconds)
    c.classBufferCapacity

/-- An operator before its first step. -/
def create (c : Config) : Operator where
  classes := { dedup := Deduplicator.empty c.dedupCapacity }
  jobs := Run.ofJobs c.jobBufferCapacity c.dedupCapacity

def result? (o : Operator) : Option (Except Failure Unit) := o.stopping.result?

/-- One step of the loop that follows the classes. -/
def stepClasses (o : Operator) (s : Supervisor) (now : String) (clock : Nat) (k : Cluster) :
    Option (Operator × Supervisor × Cluster) :=
  match o.classStage with
  | .running =>
    match o.classes.result? with
    | some result =>
      some ({ o with classStage := .afterRun s.stopped clock s.restartDelay result }, s, k)
    | none =>
      (s.stepWatch now o.classes k).map fun (w, s, k) => ({ o with classes := w }, s, k)
  | .waiting due =>
    if s.stopped then some ({ o with classStage := .finished }, s, k)
    else if due ≤ clock then
      some ({ o with classStage := .running, classes := { o.classes with stage := .subscribing } },
        s, k)
    else none
  | .finished => none

/-- One step of the loop that follows the jobs. -/
def stepJobs (o : Operator) (s : Supervisor) (now : String) (clock : Nat) (k : Cluster) :
    Option (Operator × Supervisor × Cluster) :=
  match o.jobStage with
  | .running =>
    match o.jobs.result? with
    | some result =>
      some ({ o with jobStage := .afterRun s.stopped clock s.restartDelay result }, s, k)
    | none =>
      (o.jobs.step (s.handler now) s.stopped k).map fun (run, k) => ({ o with jobs := run }, s, k)
  | .waiting due =>
    if s.stopped then some ({ o with jobStage := .finished }, s, k)
    else if due ≤ clock then
      some ({ o with jobStage := .running, jobs := o.jobs.restart }, s, k)
    else none
  | .finished => none

def stepLoop (o : Operator) (s : Supervisor) (now : String) (clock : Nat) (k : Cluster) :
    OperatorLoop → Option (Operator × Supervisor × Cluster)
  | .classes => o.stepClasses s now clock k
  | .jobs => o.stepJobs s now clock k

/-- The loops in the order of the present turn. -/
def order (o : Operator) : List OperatorLoop :=
  match o.first with
  | .classes => [.classes, .jobs]
  | .jobs => [.jobs, .classes]

/-- The other loop comes first in the next turn. -/
def endTurn (o : Operator) : Operator :=
  { o with
    first :=
      match o.first with
      | .classes => .jobs
      | .jobs => .classes }

/-- Both loops are over. -/
def isClosing (o : Operator) : Bool := o.classStage == .finished && o.jobStage == .finished

/-! ## Tolls -/

/-- The toll of the next step of a loop, from the toll of its run. -/
def keptToll (cancelled : Bool) (clock : Nat) (running : Toll) : KeptStage → Toll
  | .running => running
  | .waiting due => .ofWait (!cancelled && due ≤ clock)
  | .finished => .free

def loopToll (o : Operator) (s : Supervisor) (clock : Nat) (k : Cluster) : OperatorLoop → Toll
  | .classes => keptToll s.stopped clock (o.classes.toll s.stopped k) o.classStage
  | .jobs => keptToll s.stopped clock (o.jobs.toll s.stopped k) o.jobStage

/-- The tolls of what the operator does next. -/
def tolls (o : Operator) (s : Supervisor) (clock : Nat) (k : Cluster) : List Toll :=
  if o.isClosing then [o.stopping.toll] else o.order.map (o.loopToll s clock k)

/-! ## Steps -/

/-- One step of the operator within an allowance, and what is left of it; none when it waits or is
over, or when the allowance does not cover the step. -/
def step (o : Operator) (s : Supervisor) (now : String) (clock allowance : Nat) (k : Cluster) :
    Option ((Operator × Supervisor × Cluster) × Nat) :=
  if o.isClosing then
    o.stopping.toll.pay allowance <|
      (s.stepCall now o.stopping k).map fun (call, s, k) => ({ o with stopping := call }, s, k)
  else
    o.order.findSome? fun loop =>
      (o.loopToll s clock k loop).pay allowance (o.stepLoop s now clock k loop)

/-- The ticket of the subscription it goes on with. -/
def ticket? (o : Operator) (s : Supervisor) (now : String) (clock : Nat) (k : Cluster) :
    Option Nat :=
  if (o.stepClasses s now clock k).isSome then o.classes.ticket? else o.jobs.ticket?

/-- The times that its loops wait for. -/
def dues (o : Operator) : List Nat := [o.classStage, o.jobStage].filterMap KeptStage.due?

end Operator

end StreamOperator
