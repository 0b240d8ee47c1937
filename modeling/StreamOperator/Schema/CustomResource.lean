import StreamOperator.Kube.Coordinates
import StreamOperator.Schema.Basic

/-!
# Definitions of custom resources

A custom resource is defined by its coordinates, its short name, the columns it is listed with, and
the schemas of its specification and its status.
-/

set_option autoImplicit false

namespace StreamOperator

/-- A column of a list of resources. -/
structure PrinterColumn where
  name : String
  type : String
  path : String
  deriving DecidableEq, Repr

namespace PrinterColumn

def age : PrinterColumn := ⟨"Age", "date", ".metadata.creationTimestamp"⟩

def phase : PrinterColumn := ⟨"Phase", "string", ".status.phase"⟩

def encode (c : PrinterColumn) : Json :=
  .obj [("jsonPath", .str c.path), ("name", .str c.name), ("type", .str c.type)]

end PrinterColumn

structure CustomResource where
  coordinates : Coordinates
  singular : String
  shortName : String
  columns : List PrinterColumn
  spec : Schema
  status : Option Schema := none

namespace CustomResource

/-- The name of the definition. -/
def name (r : CustomResource) : String := r.coordinates.plural ++ "." ++ r.coordinates.group

/-- The schema of the whole resource. -/
def schema (r : CustomResource) : Schema :=
  let kind := r.coordinates.kind
  let status := r.status.toList.map fun s => ⟨"status", s.orNull, false⟩
  ((Schema.object (⟨"spec", r.spec, true⟩ :: status)).set "title" (.str kind)).describe
    ("Auto-generated derived type for " ++ kind ++ "Spec via `CustomResource`")

def names (r : CustomResource) : Json :=
  .obj [("categories", .arr []), ("kind", .str r.coordinates.kind),
    ("plural", .str r.coordinates.plural), ("shortNames", .arr [.str r.shortName]),
    ("singular", .str r.singular)]

/-- The only version, which is served and stored. -/
def version (r : CustomResource) : Json :=
  let subresources := match r.status with
    | some _ => [("status", Json.obj [])]
    | none => []
  .obj [("additionalPrinterColumns", Encode.list PrinterColumn.encode r.columns),
    ("name", .str r.coordinates.version),
    ("schema", .obj [("openAPIV3Schema", r.schema.encode)]),
    ("served", .bool true), ("storage", .bool true), ("subresources", .obj subresources)]

def encode (r : CustomResource) : Json :=
  .obj [("apiVersion", .str "apiextensions.k8s.io/v1"), ("kind", .str "CustomResourceDefinition"),
    ("metadata", .obj [("name", .str r.name)]),
    ("spec", .obj [("group", .str r.coordinates.group), ("names", r.names),
      ("scope", .str "Namespaced"), ("versions", .arr [r.version])])]

end CustomResource

end StreamOperator
