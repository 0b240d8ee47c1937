import StreamOperator.Error
import StreamOperator.Kube.Metadata

/-!
# Custom resources of any type

A resource of a type that is known only at run time: its metadata and every other field as it came.
The API version and the kind are kept when both are given as strings.
-/

set_option autoImplicit false

namespace StreamOperator

/-- The API version and the kind that a resource names. -/
structure TypeNames where
  apiVersion : String
  kind : String
  deriving DecidableEq, Repr

structure Resource where
  types : Option TypeNames
  metadata : Metadata
  /-- The fields other than the type names and the metadata. -/
  data : Dictionary Json
  deriving DecidableEq

namespace Resource

def name (r : Resource) : String := r.metadata.nameAny

/-- Takes the type names out of the fields, in their order: the API version and the kind, as far as
they are known. A name that is given twice or is no string is taken out, and ends the search. -/
def takeTypes (version kind : Option String) :
    List (String × Json) → Option TypeNames × List (String × Json)
  | [] => ((fun v k => ⟨v, k⟩) <$> version <*> kind, [])
  | ("apiVersion", value) :: rest =>
    match version, value with
    | none, .str version => takeTypes (some version) kind rest
    | _, _ => (none, rest)
  | ("kind", value) :: rest =>
    match kind, value with
    | none, .str kind => takeTypes version (some kind) rest
    | _, _ => (none, rest)
  | field :: rest =>
    let (types, data) := takeTypes version kind rest
    (types, field :: data)

def decode : Decoder Resource :=
  let run : Json → Except DecodeError Resource
    | .obj fields => do
      let metadata ← match Entries.get? "metadata" fields with
        | some value => Metadata.decode value
        | none => .ok {}
      let (types, data) := takeTypes none none (Entries.erase "metadata" fields)
      return ⟨types, metadata, .ofList data⟩
    | value => Decode.mismatch value "struct DynamicObject"
  ⟨run, .object (Decoder.checkOf run) .others [("metadata", Metadata.decode.shape)]⟩

def encode (r : Resource) : Json :=
  let named := match r.types with
    | some t => [("apiVersion", Json.str t.apiVersion), ("kind", Json.str t.kind)]
    | none => []
  .obj (Entries.ofList (named ++ ("metadata", r.metadata.encode) :: r.data.toList))

/-- Reads the resource as one of a typed kind. -/
def parse {α : Type} (decode : Decoder α) (r : Resource) : Except Failure α :=
  match decode r.encode with
  | .ok a => .ok a
  | .error e => .error (.serialization e)

end Resource

end StreamOperator
