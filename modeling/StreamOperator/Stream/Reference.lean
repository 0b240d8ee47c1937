import StreamOperator.Kube.Coordinates

/-!
# References to stream definitions
-/

set_option autoImplicit false

namespace StreamOperator

/-- The identity of a stream definition: its type, namespace and name. -/
structure StreamRef where
  coordinates : Coordinates
  space : String
  name : String
  deriving DecidableEq, Repr

/-- The definition as messages name it. -/
def StreamRef.display (r : StreamRef) : String :=
  r.coordinates.kind ++ "/" ++ r.space ++ "/" ++ r.name

/-- A reference from a stream definition to a job template, by default in its own namespace. -/
structure TemplateRef where
  name : String
  space : Option String := none
  deriving DecidableEq, Repr

namespace TemplateRef

def record : Record TemplateRef :=
  (Record.const TemplateRef.mk)
    |>.and (.required "name" Decode.text)
    |>.and (.optional "namespace" Decode.text)

def decode : Decoder TemplateRef := Record.struct "JobTemplateRef" record

def encode (r : TemplateRef) : Json :=
  .obj [("name", .str r.name), ("namespace", Encode.optional Json.str r.space)]

/-- The field of a specification that refers to the template of a normal or a backfill job. -/
def field (backfilling : Bool) : String :=
  if backfilling then "backfillJobTemplateRef" else "jobTemplateRef"

end TemplateRef

end StreamOperator
