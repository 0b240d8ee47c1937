import StreamOperator.Kube.Coordinates
import StreamOperator.Kube.Resource
import StreamOperator.Phase
import StreamOperator.Stream.View
import StreamOperator.Text.Lowercase

/-!
# Stream classes

A stream class registers a kind of streams: the type of its definitions and the settings of its
pipeline.
-/

set_option autoImplicit false

namespace StreamOperator

structure ClassSpec where
  apiGroupRef : String
  apiVersion : String := "v1"
  pluralName : String
  kindRef : String
  /-- The fields of a specification that refer to secrets. -/
  secretRefFields : List String := []
  /-- The capacity of the event buffer of this kind's pipeline. -/
  maxBufferCapacity : Nat := 10000
  deriving DecidableEq, Repr

namespace ClassSpec

def record : Record ClassSpec :=
  (Record.const ClassSpec.mk)
    |>.and (.required "apiGroupRef" Decode.text)
    |>.and (.defaulted "apiVersion" Decode.text "v1")
    |>.and (.required "pluralName" Decode.text)
    |>.and (.required "kindRef" Decode.text)
    |>.and (.defaulted "secretRefFields" (Decode.list Decode.text) [])
    |>.and (.defaulted "maxBufferCapacity" Decode.size 10000)

def decode : Decoder ClassSpec := Record.struct "StreamClassSpec" record

def encode (s : ClassSpec) : Json :=
  .obj [("apiGroupRef", .str s.apiGroupRef),
    ("apiVersion", .str s.apiVersion),
    ("kindRef", .str s.kindRef),
    ("maxBufferCapacity", Encode.natural s.maxBufferCapacity),
    ("pluralName", .str s.pluralName),
    ("secretRefFields", Encode.list Json.str s.secretRefFields)]

end ClassSpec

structure StreamClass where
  metadata : Metadata
  spec : ClassSpec
  status : Option ClassStatus
  deriving DecidableEq

/-- The identity of a stream class for updates of its status. -/
structure ClassRef where
  space : String
  name : String
  deriving DecidableEq, Repr

namespace StreamClass

def kind : String := "StreamClass"

/-- The coordinates of stream classes themselves. -/
def coordinates : Coordinates := ⟨"arcane.dev", "v1", "streamclasses", kind⟩

def record : Record StreamClass :=
  (Record.const StreamClass.mk)
    |>.and (.required "metadata" Metadata.decode)
    |>.and (.required "spec" ClassSpec.decode)
    |>.and (.optionalByName "status" ClassStatus.decode)

def decode : Decoder StreamClass := Record.struct kind record

def encode (c : StreamClass) : Json :=
  Json.ofFields [
    ("apiVersion", some (.str coordinates.apiVersion)),
    ("kind", some (.str kind)),
    ("metadata", some c.metadata.encode),
    ("spec", some c.spec.encode),
    ("status", c.status.map ClassStatus.encode)]

/-- The coordinates of the stream definitions the class governs. -/
def target (c : StreamClass) : Coordinates :=
  ⟨c.spec.apiGroupRef, c.spec.apiVersion, c.spec.pluralName, c.spec.kindRef⟩

/-- The stable id of the kind: the namespace and the kind in lower case. -/
def id (c : StreamClass) : String :=
  c.metadata.space.getD defaultSpace ++ "-" ++ Text.lowercase c.spec.kindRef

def bufferCapacity (c : StreamClass) : Nat := max c.spec.maxBufferCapacity 1

def phase? (c : StreamClass) : Option ClassPhase := c.status.bind Status.phase

def reference (c : StreamClass) : ClassRef :=
  ⟨c.metadata.space.getD defaultSpace, c.metadata.nameAny⟩

end StreamClass

end StreamOperator
