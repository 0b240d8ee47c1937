/-!
# Names of labels and annotations

The operator marks stream definitions and jobs with labels and annotations of its own.
-/

set_option autoImplicit false

namespace StreamOperator.Key

/-- The annotation that holds the state of a stream definition or a job. -/
def state : String := "arcane.dev/state"

/-- The annotation that holds the checksum of the configuration a job was started with. -/
def checksum : String := "arcane.dev/configuration-checksum"

/-- The annotations that record the type of the definition a job belongs to. -/
def apiGroup : String := "arcane.dev/api-group"

def apiVersion : String := "arcane.dev/api-version"

def apiPlural : String := "arcane.dev/api-plural"

/-- The label that holds the id of the stream; every job the operator manages has it. -/
def streamId : String := "arcane.dev/stream-id"

def streamKind : String := "arcane.dev/stream-kind"

/-- The label that tells a backfill job from a normal one. -/
def backfilling : String := "arcane.dev/backfilling"

def annotations : List String := [state, checksum, apiGroup, apiVersion, apiPlural]

def labels : List String := [streamId, streamKind, backfilling]

/-- The label selector of the jobs the operator manages. -/
def managedJobs : String := streamId

end StreamOperator.Key
