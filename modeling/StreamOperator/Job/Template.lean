import StreamOperator.Kube.Coordinates
import StreamOperator.Kube.Job

/-!
# Job templates as resources

Stream definitions refer to these for their normal and their backfill jobs.
-/

set_option autoImplicit false

namespace StreamOperator

structure StreamTemplate where
  metadata : Metadata
  template : JobTemplate
  deriving DecidableEq

namespace StreamTemplate

def kind : String := "StreamingJobTemplate"

def coordinates : Coordinates := ⟨"arcane.dev", "v1", "streamingjobtemplates", kind⟩

/-- The specification holds nothing but the template. -/
def decodeSpec : Decoder JobTemplate :=
  Record.struct "StreamingJobTemplateSpec"
    ((Record.const id) |>.and (.required "template" JobTemplate.decode))

def encodeSpec (t : JobTemplate) : Json := .obj [("template", t.encode)]

def record : Record StreamTemplate :=
  (Record.const StreamTemplate.mk)
    |>.and (.required "metadata" Metadata.decode)
    |>.and (.required "spec" decodeSpec)

def decode : Decoder StreamTemplate := Record.struct kind record

def encode (t : StreamTemplate) : Json :=
  .obj [("apiVersion", .str coordinates.apiVersion), ("kind", .str kind),
    ("metadata", t.metadata.encode), ("spec", encodeSpec t.template)]

end StreamTemplate

end StreamOperator
