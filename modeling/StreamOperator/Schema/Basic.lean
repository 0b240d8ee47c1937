import StreamOperator.Json.Decode

/-!
# Schemas

The schema of a resource says which fields its parts have and of what type they are. A schema is put
together from those of its parts.
-/

set_option autoImplicit false

namespace StreamOperator

structure Schema where
  /-- What is said, by keyword. -/
  keywords : Dictionary Json

namespace Schema

def encode (s : Schema) : Json := .obj s.keywords.toList

/-- Says one thing more. -/
def set (s : Schema) (keyword : String) (value : Json) : Schema := ⟨s.keywords.insert keyword value⟩

def ofType (type : String) : Schema := ⟨Dictionary.ofList [("type", .str type)]⟩

def text : Schema := ofType "string"

/-- One of a list of words. -/
def choice (words : List String) : Schema := text.set "enum" (Encode.list Json.str words)

/-- An integer of 32 bits. -/
def signed32 : Schema := (ofType "integer").set "format" (.str "int32")

/-- A natural number. -/
def size : Schema :=
  ((ofType "integer").set "format" (.str "uint")).set "minimum" (.float .zero)

def list (items : Schema) : Schema := (ofType "array").set "items" items.encode

/-- An object that nothing is known about. -/
def anything : Schema :=
  (ofType "object").set "x-kubernetes-preserve-unknown-fields" (.bool true)

def describe (s : Schema) (words : String) : Schema := s.set "description" (.str words)

/-- The value may be null. -/
def orNull (s : Schema) : Schema := s.set "nullable" (.bool true)

/-- The value that an absent field stands for. -/
def withDefault (s : Schema) (value : Json) : Schema := s.set "default" value

/-- A field of an object. -/
structure Property where
  name : String
  schema : Schema
  required : Bool := false

/-- An object with fields; the names of the required ones are sorted. -/
def object (properties : List Property) : Schema :=
  let fields := Dictionary.ofList (properties.map fun p => (p.name, p.schema.encode))
  let required := (properties.filter Property.required).map Property.name
  let sorted := required.mergeSort fun a b => a ≤ b
  let base := (ofType "object").set "properties" (.obj fields.toList)
  if sorted.isEmpty then base else base.set "required" (Encode.list Json.str sorted)

end Schema

end StreamOperator
