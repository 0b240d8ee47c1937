import StreamOperator.Kube.Resource
import StreamOperator.Phase
import StreamOperator.Stream.View

/-!
# Streams from SQL Server tables

A kind of stream with a typed specification: changes tracked in one table of a SQL Server.
-/

set_option autoImplicit false

namespace StreamOperator

/-- A secret in the stream's namespace. -/
structure SecretRef where
  name : String
  deriving DecidableEq, Repr

namespace SecretRef

def record : Record SecretRef := (Record.const SecretRef.mk) |>.and (.required "name" Decode.text)

def decode : Decoder SecretRef := Record.struct "SecretRef" record

def encode (r : SecretRef) : Json := .obj [("name", .str r.name)]

end SecretRef

structure SqlServerSpec where
  /-- The secret that holds the connection string. -/
  connectionSecretRef : SecretRef
  schema : String := "dbo"
  table : String
  sinkLocation : String
  rowsPerGroup : Int := 10000
  changeCaptureIntervalSeconds : Int := 15
  jobTemplateRef : TemplateRef
  backfillJobTemplateRef : TemplateRef
  deriving DecidableEq, Repr

namespace SqlServerSpec

def record : Record SqlServerSpec :=
  (Record.const SqlServerSpec.mk)
    |>.and (.required "connectionSecretRef" SecretRef.decode)
    |>.and (.defaulted "schema" Decode.text "dbo")
    |>.and (.required "table" Decode.text)
    |>.and (.required "sinkLocation" Decode.text)
    |>.and (.defaulted "rowsPerGroup" Decode.signed32 10000)
    |>.and (.defaulted "changeCaptureIntervalSeconds" Decode.signed32 15)
    |>.and (.required "jobTemplateRef" TemplateRef.decode)
    |>.and (.required "backfillJobTemplateRef" TemplateRef.decode)

def decode : Decoder SqlServerSpec := Record.struct "SqlServerStreamSpec" record

def encode (s : SqlServerSpec) : Json :=
  .obj [("backfillJobTemplateRef", s.backfillJobTemplateRef.encode),
    ("changeCaptureIntervalSeconds", .int s.changeCaptureIntervalSeconds),
    ("connectionSecretRef", s.connectionSecretRef.encode),
    ("jobTemplateRef", s.jobTemplateRef.encode),
    ("rowsPerGroup", .int s.rowsPerGroup),
    ("schema", .str s.schema),
    ("sinkLocation", .str s.sinkLocation),
    ("table", .str s.table)]

end SqlServerSpec

structure SqlServerStream where
  metadata : Metadata
  spec : SqlServerSpec
  status : Option StreamStatus
  deriving DecidableEq

namespace SqlServerStream

def kind : String := "SqlServerStream"

def coordinates : Coordinates := ⟨"arcane.dev", "v1", "sqlserverstreams", kind⟩

def record : Record SqlServerStream :=
  (Record.const SqlServerStream.mk)
    |>.and (.required "metadata" Metadata.decode)
    |>.and (.required "spec" SqlServerSpec.decode)
    |>.and (.optionalByName "status" StreamStatus.decode)

def decode : Decoder SqlServerStream := Record.struct kind record

def encode (s : SqlServerStream) : Json :=
  Json.ofFields [
    ("apiVersion", some (.str coordinates.apiVersion)),
    ("kind", some (.str kind)),
    ("metadata", some s.metadata.encode),
    ("spec", some s.spec.encode),
    ("status", s.status.map StreamStatus.encode)]

def view (s : SqlServerStream) : StreamView where
  id := s.metadata.nameAny
  space := s.metadata.space.getD defaultSpace
  kind := kind
  metadata := s.metadata
  payload := s.spec.encode
  jobTemplate := some s.spec.jobTemplateRef
  backfillTemplate := some s.spec.backfillJobTemplateRef

end SqlServerStream

end StreamOperator
