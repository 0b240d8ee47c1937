import StreamOperator.Command
import StreamOperator.Event.Buffer

/-!
# Decisions on stream definitions

The commands that bring the cluster in line with a definition, from the change that was reported
and the job that runs the stream at the moment, if there is one.
-/

set_option autoImplicit false

namespace StreamOperator.Definition

/-- A definition that was added, or listed anew: a stream without a job starts with a backfill. -/
def onAdded (d : Definition) : Option Job → List Command
  | none =>
    if d.isSuspended then [.enterPhase d.reference .suspended] else [.startJob d true]
  | some job =>
    if job.isBackfilling then [.enterPhase d.reference .reloading]
    else if d.isSuspended then [.stop job]
    else [.enterPhase d.reference .running]

/-- A definition that was modified: a job whose checksum differs is asked to restart, and the
replacement is started once it is gone. -/
def onModified (d : Definition) : Option Job → List Command
  | none =>
    if d.isCrashLoop then [.crashLoopStatus d]
    else if d.isSuspended then [.enterPhase d.reference .suspended]
    else if d.isReloadRequested then [.dropReloadRequest d, .startJob d true]
    else [.startJob d false]
  | some job =>
    if d.isSuspended then [.stop job]
    else if d.isReloadRequested then [.dropReloadRequest d, .requestReload job]
    else if job.checksum? ≠ some d.checksum then [.requestRestart job]
    else []

/-- Jobs of deleted definitions are cleaned up by their own events. -/
def react (type : EventType) (d : Definition) (job : Option Job) : List Command :=
  match type with
  | .added => d.onAdded job
  | .modified => d.onModified job
  | .deleted => []

end StreamOperator.Definition
