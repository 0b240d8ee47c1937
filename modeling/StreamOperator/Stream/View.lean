import StreamOperator.Digest.Sha256
import StreamOperator.Json.Printer
import StreamOperator.Stream.Reference
import StreamOperator.Stream.State

/-!
# Streams as the operator sees them

Definitions of streams come in many kinds. What the operator needs of each is the same: its id,
namespace and kind, its annotations, the payload of its specification and the templates of its jobs.
The checksum of the payload depends on its content alone, not on the order of its fields.
-/

set_option autoImplicit false

namespace StreamOperator

/-- The namespace of a resource that names none. -/
def defaultSpace : String := "default"

structure StreamView where
  /-- The name of the stream and of the job that runs it. -/
  id : String
  space : String
  kind : String
  metadata : Metadata
  /-- The content of the specification. -/
  payload : Json
  jobTemplate : Option TemplateRef
  backfillTemplate : Option TemplateRef
  deriving DecidableEq

/-- The digest of a payload's canonical text. -/
def configurationChecksum (payload : Json) : String := Digest.sha256Hex payload.canonical.render

namespace StreamView

def state? (v : StreamView) : Option StreamState := v.metadata.state?

def isSuspended (v : StreamView) : Bool := v.state? == some .suspended

def isReloadRequested (v : StreamView) : Bool := v.state? == some .reloadRequested

def isCrashLoop (v : StreamView) : Bool := v.state? == some .crashLoop

def checksum (v : StreamView) : String := configurationChecksum v.payload

/-- The template of a normal or a backfill job. -/
def templateRef? (v : StreamView) (backfilling : Bool) : Option TemplateRef :=
  if backfilling then v.backfillTemplate else v.jobTemplate

end StreamView

end StreamOperator
