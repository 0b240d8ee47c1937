import StreamOperator.Json.Record
import StreamOperator.Time.Reader

/-!
# Metadata of cluster resources

The metadata every resource carries: its names, labels, annotations, version and times. Absent
parts are left out when metadata is written; labels and annotations that are present are written
even when they are empty. What the operator does not look into is kept as it stands.
-/

set_option autoImplicit false

namespace StreamOperator

/-- The names of the fields of metadata that nothing looks into. -/
def Metadata.otherNames : List String :=
  ["deletionGracePeriodSeconds", "managedFields", "ownerReferences", "selfLink"]

/-- The metadata of a resource. -/
structure Metadata where
  name : Option String := none
  generateName : Option String := none
  /-- The namespace. -/
  space : Option String := none
  uid : Option String := none
  resourceVersion : Option String := none
  generation : Option Int := none
  creationTimestamp : Option Instant := none
  deletionTimestamp : Option Instant := none
  labels : Option (Dictionary String) := none
  annotations : Option (Dictionary String) := none
  finalizers : Option (List String) := none
  others : OtherFields Metadata.otherNames := .empty
  deriving DecidableEq

namespace Metadata

instance : Inhabited Metadata := ⟨{}⟩

/-- The name, or the name that others are to be generated from. -/
def nameAny (m : Metadata) : String := (m.name.or m.generateName).getD ""

/-- The annotation under a key. -/
def annotation? (m : Metadata) (key : String) : Option String :=
  m.annotations.bind fun d => d.get? key

/-- The label under a key. -/
def label? (m : Metadata) (key : String) : Option String :=
  m.labels.bind fun d => d.get? key

/-- Sets an annotation, or removes it when there is no value. -/
def annotate (m : Metadata) (key : String) (value : Option String) : Metadata :=
  let current := m.annotations.getD .empty
  let changed := match value with
    | some v => current.insert key v
    | none => current.erase key
  { m with annotations := some changed }

def record : Record Metadata :=
  (Record.const Metadata.mk)
    |>.and (.optional "name" Decode.text)
    |>.and (.optional "generateName" Decode.text)
    |>.and (.optional "namespace" Decode.text)
    |>.and (.optional "uid" Decode.text)
    |>.and (.optional "resourceVersion" Decode.text)
    |>.and (.optional "generation" Decode.signed64)
    |>.and (.optional "creationTimestamp" Instant.decode)
    |>.and (.optional "deletionTimestamp" Instant.decode)
    |>.and (.optional "labels" (Decode.dictionary Decode.text))
    |>.and (.optional "annotations" (Decode.dictionary Decode.text))
    |>.and (.optional "finalizers" (Decode.list Decode.text))
    |>.andOthers

def decode : Decoder Metadata := Record.object "ObjectMeta" record

/-- The fields that are written, but for those that nothing looks into. -/
def ownFields (m : Metadata) : List (String × Option Json) := [
  ("name", m.name.map Json.str),
  ("generateName", m.generateName.map Json.str),
  ("namespace", m.space.map Json.str),
  ("uid", m.uid.map Json.str),
  ("resourceVersion", m.resourceVersion.map Json.str),
  ("generation", m.generation.map Json.int),
  ("creationTimestamp", m.creationTimestamp.map fun t => Json.str t.text),
  ("deletionTimestamp", m.deletionTimestamp.map fun t => Json.str t.text),
  ("labels", m.labels.map (Encode.dictionary Json.str)),
  ("annotations", m.annotations.map (Encode.dictionary Json.str)),
  ("finalizers", m.finalizers.map (Encode.list Json.str))]

def encode (m : Metadata) : Json := Json.ofFields (m.ownFields ++ m.others.fields)

@[simp] theorem annotation?_annotate_self (m : Metadata) (key : String) (value : Option String) :
    (m.annotate key value).annotation? key = value := by
  cases value <;> simp [annotate, annotation?]

theorem annotation?_annotate_of_ne (m : Metadata) {key other : String} (differ : other ≠ key)
    (value : Option String) : (m.annotate key value).annotation? other = m.annotation? other := by
  cases value <;> cases h : m.annotations <;>
    simp [annotate, annotation?, h, Dictionary.get?_insert_of_ne, Dictionary.get?_erase_of_ne,
      differ]

end Metadata

end StreamOperator
