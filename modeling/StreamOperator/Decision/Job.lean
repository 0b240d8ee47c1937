import StreamOperator.Command
import StreamOperator.Event.Buffer

/-!
# Decisions on jobs

The commands that follow from a change of a job. A job that is to restart or reload is only stopped;
its replacement starts once its deletion is reported, so that two jobs of one stream never run side
by side.
-/

set_option autoImplicit false

namespace StreamOperator.Job

/-- A job that appeared, with the definition that owns it. -/
def onAdded (job : Job) : Option Definition → List Command
  | none => []
  | some d =>
    if job.isTerminating then []
    else if job.isBackfilling then
      if d.isReloadRequested then [.dropReloadRequest d, .enterPhase d.reference .reloading]
      else [.enterPhase d.reference .reloading]
    else [.enterPhase d.reference .running]

/-- A job that changed: one that is to go, or has finished, is stopped. -/
def onModified (job : Job) : List Command :=
  if job.isTerminating then []
  else if job.isReloadRequested || job.isRestartRequested then [.stop job]
  else if job.isFailed || job.isCompleted then [.stop job]
  else []

/-- A job that is gone, with the definition that owned it: after a failure the stream stays down. -/
def onDeleted (job : Job) : Option Definition → List Command
  | none => []
  | some d =>
    if job.isFailed then [.crashLoopStatus d, .markCrashLoop d]
    else if d.isSuspended then [.enterPhase d.reference .suspended]
    else if d.isCrashLoop then [.crashLoopStatus d]
    else [.startJob d (job.isReloadRequested || job.isSchemaMismatch)]

def react (type : EventType) (job : Job) (owner : Option Definition) : List Command :=
  match type with
  | .added => job.onAdded owner
  | .modified => job.onModified
  | .deleted => job.onDeleted owner

end StreamOperator.Job
