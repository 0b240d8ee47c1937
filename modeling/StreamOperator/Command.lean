import StreamOperator.Job.View
import StreamOperator.Stream.Definition
import StreamOperator.StreamClass.Basic

/-!
# Commands

Every change of the cluster that a reconciler can ask for is a command. A command is plain data:
to decide on one changes nothing.
-/

set_option autoImplicit false

namespace StreamOperator

/-- What an annotation command applies to. -/
inductive AnnotationTarget where
  | definition (stream : StreamRef)
  | job (space name : String)
  deriving DecidableEq, Repr

def AnnotationTarget.display : AnnotationTarget → String
  | definition stream => stream.display
  | job space name => "Job/" ++ space ++ "/" ++ name

inductive Command where
  /-- Create the job of a stream from its normal or its backfill template. -/
  | startJob (definition : Definition) (backfilling : Bool)
  | stopJob (space name : String)
  | annotate (target : AnnotationTarget) (key value : String)
  /-- Remove an annotation; an expected value protects every other value. -/
  | unannotate (target : AnnotationTarget) (key : String) (expected : Option String)
  | updateStatus (stream : StreamRef) (phase : StreamPhase) (conditions : List Condition)
  | setClassStatus (stream : ClassRef) (phase : ClassPhase) (conditions : List Condition)
  deriving DecidableEq

namespace Command

def stop (job : Job) : Command := stopJob job.space job.name

def statusWithReason (stream : StreamRef) (phase : StreamPhase) (reason message : String) :
    Command :=
  updateStatus stream phase (phase.conditions reason message)

/-- The standard reason and message of a phase. -/
def phaseWords : StreamPhase → String × String
  | .running => (Condition.Reason.running, "Stream job is running")
  | .reloading => (Condition.Reason.reloading, "Stream is reloading from a backfill job")
  | .suspended => (Condition.Reason.suspended, "Stream is suspended")
  | .failed => (Condition.Reason.internalError, "Stream failed")

/-- The status of a phase with its standard reason and message. -/
def enterPhase (stream : StreamRef) (phase : StreamPhase) : Command :=
  statusWithReason stream phase (phaseWords phase).1 (phaseWords phase).2

def crashLoopStatus (d : Definition) : Command :=
  statusWithReason d.reference .failed Condition.Reason.crashLoop
    "Stream job failed; remove the crash-loop annotation to restart"

def internalError (stream : StreamRef) (message : String) : Command :=
  statusWithReason stream .failed Condition.Reason.internalError message

def markCrashLoop (d : Definition) : Command :=
  annotate (.definition d.reference) Key.state StreamState.crashLoop.text

def dropReloadRequest (d : Definition) : Command :=
  unannotate (.definition d.reference) Key.state (some StreamState.reloadRequested.text)

/-- Asks the owner of a job for a state. -/
def markJob (job : Job) (state : StreamState) : Command :=
  annotate (.job job.space job.name) Key.state state.text

def requestReload (job : Job) : Command := markJob job .reloadRequested

def requestRestart (job : Job) : Command := markJob job .restartRequested

def classStatus (c : ClassRef) (phase : ClassPhase) (reason message : String) : Command :=
  setClassStatus c phase (phase.conditions reason message)

def isStartJob : Command → Bool
  | startJob _ _ => true
  | _ => false

def isStopJob : Command → Bool
  | stopJob _ _ => true
  | _ => false

/-- The commands ask for the same: definitions are compared by what they say. -/
def agrees : Command → Command → Bool
  | startJob d b, startJob d' b' => d.agrees d' && b == b'
  | a, b => a == b

end Command

end StreamOperator
