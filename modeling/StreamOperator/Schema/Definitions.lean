import StreamOperator.Job.Template
import StreamOperator.Schema.CustomResource
import StreamOperator.Stream.SqlServer
import StreamOperator.StreamClass.Basic

/-!
# The operator's own custom resources
-/

set_option autoImplicit false

namespace StreamOperator

namespace Schema

/-- A field that may be absent or null. -/
def optionalText (name words : String) : Property := ⟨name, text.orNull.describe words, false⟩

def requiredText (name words : String) : Property := ⟨name, text.describe words, true⟩

/-! ## Statuses -/

def condition (words : String) : Schema :=
  (object [requiredText "type" "Type of condition",
    requiredText "status" "Status of the condition (True, False, Unknown)",
    optionalText "lastTransitionTime" "Last time the condition transitioned",
    optionalText "reason" "Reason for the condition",
    optionalText "message" "Human-readable message"]).describe words

/-- A status with one of a list of phases. -/
def status (phases : List String) (phase conditions conditionWords : String) : Schema :=
  object [⟨"phase", (choice phases).orNull.describe phase, false⟩,
    ⟨"conditions", ((list (condition conditionWords)).withDefault (.arr [])).describe conditions,
      false⟩]

def classStatus : Schema :=
  (status (ClassPhase.all.map ClassPhase.text) "Current phase of the stream class"
    "Conditions representing the stream class state" "Condition of the stream class").describe
    "Status of the StreamClass"

def streamStatus : Schema :=
  (status (StreamPhase.all.map StreamPhase.text) "Current phase of the stream"
    "Conditions representing the stream state" "Condition of a stream").describe
    "Status sub-resource written to stream definitions"

/-! ## Specifications -/

def classSpec : Schema :=
  (object [requiredText "apiGroupRef" "API group of the stream definition CRD",
    ⟨"apiVersion",
      (text.withDefault (.str "v1")).describe "API version of the stream definition CRD", false⟩,
    requiredText "pluralName" "Plural name of the stream definition CRD",
    requiredText "kindRef" "Kind of the stream definition CRD",
    ⟨"secretRefFields", ((list text).withDefault (.arr [])).describe
      "Spec fields whose values reference secrets to mount into the job", false⟩,
    ⟨"maxBufferCapacity", (size.withDefault (.int 10000)).describe
      "Capacity of the event buffer of this kind's pipeline", false⟩]).describe
    "StreamClass is the Schema for the streamclasses API"

/-- Templates of jobs are not looked into. -/
def jobTemplate : Schema := anything.describe "Template of the job to run"

def templateSpec : Schema :=
  (object [⟨"template", jobTemplate, true⟩]).describe
    "StreamingJobTemplate is the Schema for the streamingjobtemplates API"

def templateRef : Schema :=
  object [⟨"name", text, true⟩,
    optionalText "namespace" "Defaults to the namespace of the stream definition"]

def secretRef : Schema := object [⟨"name", text, true⟩]

def sqlServerSpec : Schema :=
  (object [
    ⟨"connectionSecretRef", secretRef.describe "Secret holding the connection string", true⟩,
    ⟨"schema", (text.withDefault (.str "dbo")).describe "Source schema", false⟩,
    requiredText "table" "Source table",
    requiredText "sinkLocation" "Sink location, e.g. an object storage prefix",
    ⟨"rowsPerGroup", (signed32.withDefault (.int 10000)).describe
      "Rows fetched per change-tracking poll", false⟩,
    ⟨"changeCaptureIntervalSeconds", (signed32.withDefault (.int 15)).describe
      "Poll interval in seconds", false⟩,
    ⟨"jobTemplateRef", templateRef.describe "Template for the streaming job", true⟩,
    ⟨"backfillJobTemplateRef", templateRef.describe "Template for the backfill job", true⟩]).describe
    "SqlServerStream is the Schema for the sqlserverstreams API"

end Schema

namespace CustomResource

def streamClass : CustomResource where
  coordinates := StreamClass.coordinates
  singular := "streamclass"
  shortName := "sc"
  columns := [⟨"Kind", "string", ".spec.kindRef"⟩, .phase, .age]
  spec := Schema.classSpec
  status := some Schema.classStatus

def streamTemplate : CustomResource where
  coordinates := StreamTemplate.coordinates
  singular := "streamingjobtemplate"
  shortName := "sjt"
  columns := [.age]
  spec := Schema.templateSpec

def sqlServerStream : CustomResource where
  coordinates := SqlServerStream.coordinates
  singular := "sqlserverstream"
  shortName := "sqls"
  columns := [⟨"Table", "string", ".spec.table"⟩, .phase, .age]
  spec := Schema.sqlServerSpec
  status := some Schema.streamStatus

/-- All definitions, in the order they are printed. -/
def all : List CustomResource := [streamClass, streamTemplate, sqlServerStream]

end CustomResource

end StreamOperator
