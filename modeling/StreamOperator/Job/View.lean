import StreamOperator.Condition
import StreamOperator.Kube.Job
import StreamOperator.Stream.Reference
import StreamOperator.Stream.State
import StreamOperator.Stream.View

/-!
# Jobs that run streams

Labels of a job carry the id and kind of its stream and tell a backfill from a normal run;
annotations carry the checksum of the configuration and the type of the owning definition.
-/

set_option autoImplicit false

namespace StreamOperator.Job

def space (j : Job) : String := j.metadata.space.getD defaultSpace

/-- The id on the label, else the name of the job. -/
def streamId (j : Job) : String := (j.metadata.label? Key.streamId).getD j.name

def streamKind? (j : Job) : Option String := j.metadata.label? Key.streamKind

def isBackfilling (j : Job) : Bool := j.metadata.label? Key.backfilling == some "true"

def checksum? (j : Job) : Option String := j.metadata.annotation? Key.checksum

def state? (j : Job) : Option StreamState := j.metadata.state?

/-- The job is on its way out by its state, or is being deleted. -/
def isTerminating (j : Job) : Bool :=
  j.metadata.deletionTimestamp.isSome || j.state?.any StreamState.isTerminating

def isReloadRequested (j : Job) : Bool := j.state? == some .reloadRequested

def isRestartRequested (j : Job) : Bool := j.state? == some .restartRequested

def isSchemaMismatch (j : Job) : Bool := j.state? == some .schemaMismatch

def hasCondition (j : Job) (type : String) : Bool :=
  (j.status.bind JobStatus.conditions).any fun conditions =>
    conditions.any fun c => c.type == type && c.status == Condition.isTrue

def isFailed (j : Job) : Bool := j.hasCondition "Failed"

def isCompleted (j : Job) : Bool := j.hasCondition "Complete"

/-- The definition the job was started for, by what it records of it. -/
def owner? (j : Job) : Option StreamRef := do
  let group ← j.metadata.annotation? Key.apiGroup
  let version ← j.metadata.annotation? Key.apiVersion
  let plural ← j.metadata.annotation? Key.apiPlural
  let kind ← j.streamKind?
  return ⟨⟨group, version, plural, kind⟩, j.space, j.streamId⟩

end StreamOperator.Job
