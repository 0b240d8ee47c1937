import StreamOperator.Kube.Resource
import StreamOperator.Phase
import StreamOperator.Stream.View

/-!
# Stream definitions of any kind

Stream kinds are registered at run time, so a definition is a resource together with the coordinates
of its type.
-/

set_option autoImplicit false

namespace StreamOperator

structure Definition where
  resource : Resource
  coordinates : Coordinates
  deriving DecidableEq

namespace Definition

def id (d : Definition) : String := d.resource.name

def space (d : Definition) : String := d.resource.metadata.space.getD defaultSpace

def payload (d : Definition) : Json := (d.resource.data.get? "spec").getD .null

/-- The template named by a field of the payload, unless it is malformed. -/
def template? (d : Definition) (backfilling : Bool) : Option TemplateRef :=
  (d.payload.field? (TemplateRef.field backfilling)).bind fun value =>
    (TemplateRef.decode value).toOption

def view (d : Definition) : StreamView where
  id := d.id
  space := d.space
  kind := d.coordinates.kind
  metadata := d.resource.metadata
  payload := d.payload
  jobTemplate := d.template? false
  backfillTemplate := d.template? true

def reference (d : Definition) : StreamRef := ⟨d.coordinates, d.space, d.resource.name⟩

/-- The status on the resource, unless it is malformed. -/
def status? (d : Definition) : Option StreamStatus :=
  (d.resource.data.get? "status").bind fun value => (StreamStatus.decode value).toOption

def isSuspended (d : Definition) : Bool := d.view.isSuspended

def isReloadRequested (d : Definition) : Bool := d.view.isReloadRequested

def isCrashLoop (d : Definition) : Bool := d.view.isCrashLoop

def checksum (d : Definition) : String := d.view.checksum

/-- The definitions say the same: their types, metadata and data agree, whatever type names the
resources carry. -/
def agrees (a b : Definition) : Bool :=
  a.coordinates == b.coordinates && a.resource.metadata == b.resource.metadata
    && Json.agrees (.obj a.resource.data.toList) (.obj b.resource.data.toList)

end Definition

end StreamOperator
