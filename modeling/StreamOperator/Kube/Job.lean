import StreamOperator.Kube.Metadata

/-!
# Batch jobs

Jobs, the templates they are made from and the pods they run. Absent parts are left out when a value
is written; parts that have to be there take an empty value when they are missing. What the operator
does not look into is kept as it stands, under the names that the cluster knows.
-/

set_option autoImplicit false

namespace StreamOperator

/-- A field that stands for its default when it is absent or null. -/
def Field.orElse {α : Type} (name : String) (decode : Decoder α) (default : α) : Field α :=
  .defaulted name ((Decode.optional decode).map (·.getD default)) default

/-- A variable in the environment of a container. -/
structure EnvVar where
  name : String
  value : Option String := none
  others : OtherFields ["valueFrom"] := .empty
  deriving DecidableEq

namespace EnvVar

def record : Record EnvVar :=
  (Record.const EnvVar.mk)
    |>.and (.orElse "name" Decode.text "")
    |>.and (.optional "value" Decode.text)
    |>.andOthers

def decode : Decoder EnvVar := Record.object "EnvVar" record

def encode (v : EnvVar) : Json :=
  Json.ofFields ([("name", some (.str v.name)), ("value", v.value.map Json.str)] ++ v.others.fields)

end EnvVar

/-- A secret or a configuration map by name. -/
structure NamedSource where
  name : String
  isOptional : Option Bool := none
  deriving DecidableEq, Repr

namespace NamedSource

def record : Record NamedSource :=
  (Record.const NamedSource.mk)
    |>.and (.orElse "name" Decode.text "")
    |>.and (.optional "optional" Decode.boolean)

def decode (expected : String) : Decoder NamedSource := Record.object expected record

def encode (s : NamedSource) : Json :=
  Json.ofFields [("name", some (.str s.name)), ("optional", s.isOptional.map Json.bool)]

end NamedSource

/-- A source of environment variables. -/
structure EnvSource where
  keyPrefix : Option String := none
  secretRef : Option NamedSource := none
  configMapRef : Option NamedSource := none
  deriving DecidableEq, Repr

namespace EnvSource

def record : Record EnvSource :=
  (Record.const EnvSource.mk)
    |>.and (.optional "prefix" Decode.text)
    |>.and (.optional "secretRef" (NamedSource.decode "SecretEnvSource"))
    |>.and (.optional "configMapRef" (NamedSource.decode "ConfigMapEnvSource"))

def decode : Decoder EnvSource := Record.object "EnvFromSource" record

def encode (s : EnvSource) : Json :=
  Json.ofFields [
    ("prefix", s.keyPrefix.map Json.str),
    ("secretRef", s.secretRef.map NamedSource.encode),
    ("configMapRef", s.configMapRef.map NamedSource.encode)]

end EnvSource

/-- The names of the fields of a container that nothing looks into. -/
def Container.otherNames : List String :=
  ["imagePullPolicy", "lifecycle", "livenessProbe", "ports", "readinessProbe", "resizePolicy", "resources",
    "restartPolicy", "securityContext", "startupProbe", "stdin", "stdinOnce", "terminationMessagePath",
    "terminationMessagePolicy", "tty", "volumeDevices", "volumeMounts", "workingDir"]

structure Container where
  name : String
  image : Option String := none
  command : Option (List String) := none
  args : Option (List String) := none
  env : Option (List EnvVar) := none
  envFrom : Option (List EnvSource) := none
  others : OtherFields Container.otherNames := .empty
  deriving DecidableEq

namespace Container

def record : Record Container :=
  (Record.const Container.mk)
    |>.and (.orElse "name" Decode.text "")
    |>.and (.optional "image" Decode.text)
    |>.and (.optional "command" (Decode.list Decode.text))
    |>.and (.optional "args" (Decode.list Decode.text))
    |>.and (.optional "env" (Decode.list EnvVar.decode))
    |>.and (.optional "envFrom" (Decode.list EnvSource.decode))
    |>.andOthers

def decode : Decoder Container := Record.object "Container" record

/-- The fields that are written, but for those that nothing looks into. -/
def ownFields (c : Container) : List (String × Option Json) := [
  ("name", some (.str c.name)),
  ("image", c.image.map Json.str),
  ("command", c.command.map (Encode.list Json.str)),
  ("args", c.args.map (Encode.list Json.str)),
  ("env", c.env.map (Encode.list EnvVar.encode)),
  ("envFrom", c.envFrom.map (Encode.list EnvSource.encode))]

def encode (c : Container) : Json := Json.ofFields (c.ownFields ++ c.others.fields)

end Container

/-- The names of the fields of a pod that nothing looks into. -/
def PodSpec.otherNames : List String :=
  ["activeDeadlineSeconds", "affinity", "automountServiceAccountToken", "dnsConfig", "dnsPolicy",
    "enableServiceLinks", "ephemeralContainers", "hostAliases", "hostIPC", "hostNetwork", "hostPID",
    "hostUsers", "hostname", "imagePullSecrets", "nodeName", "os", "overhead", "preemptionPolicy",
    "priority", "priorityClassName", "readinessGates", "resourceClaims", "runtimeClassName",
    "schedulerName", "schedulingGates", "securityContext", "serviceAccount", "setHostnameAsFQDN",
    "shareProcessNamespace", "subdomain", "terminationGracePeriodSeconds", "tolerations",
    "topologySpreadConstraints", "volumes"]

structure PodSpec where
  containers : List Container := []
  initContainers : Option (List Container) := none
  restartPolicy : Option String := none
  serviceAccountName : Option String := none
  nodeSelector : Option (Dictionary String) := none
  others : OtherFields PodSpec.otherNames := .empty
  deriving DecidableEq

namespace PodSpec

def record : Record PodSpec :=
  (Record.const PodSpec.mk)
    |>.and (.orElse "containers" (Decode.list Container.decode) [])
    |>.and (.optional "initContainers" (Decode.list Container.decode))
    |>.and (.optional "restartPolicy" Decode.text)
    |>.and (.optional "serviceAccountName" Decode.text)
    |>.and (.optional "nodeSelector" (Decode.dictionary Decode.text))
    |>.andOthers

def decode : Decoder PodSpec := Record.object "PodSpec" record

/-- The fields that are written, but for those that nothing looks into. -/
def ownFields (s : PodSpec) : List (String × Option Json) := [
  ("containers", some (Encode.list Container.encode s.containers)),
  ("initContainers", s.initContainers.map (Encode.list Container.encode)),
  ("restartPolicy", s.restartPolicy.map Json.str),
  ("serviceAccountName", s.serviceAccountName.map Json.str),
  ("nodeSelector", s.nodeSelector.map (Encode.dictionary Json.str))]

def encode (s : PodSpec) : Json := Json.ofFields (s.ownFields ++ s.others.fields)

end PodSpec

structure PodTemplate where
  metadata : Option Metadata := none
  spec : Option PodSpec := none
  deriving DecidableEq

namespace PodTemplate

def record : Record PodTemplate :=
  (Record.const PodTemplate.mk)
    |>.and (.optional "metadata" Metadata.decode)
    |>.and (.optional "spec" PodSpec.decode)

def decode : Decoder PodTemplate := Record.object "PodTemplateSpec" record

def encode (t : PodTemplate) : Json :=
  Json.ofFields [("metadata", t.metadata.map Metadata.encode), ("spec", t.spec.map PodSpec.encode)]

end PodTemplate

/-- The names of the fields of a job's specification that nothing looks into. -/
def JobSpec.otherNames : List String :=
  ["backoffLimitPerIndex", "completionMode", "managedBy", "manualSelector", "maxFailedIndexes",
    "podFailurePolicy", "podReplacementPolicy", "selector", "successPolicy"]

structure JobSpec where
  activeDeadlineSeconds : Option Int := none
  backoffLimit : Option Int := none
  completions : Option Int := none
  parallelism : Option Int := none
  ttlSecondsAfterFinished : Option Int := none
  suspend : Option Bool := none
  template : PodTemplate := {}
  others : OtherFields JobSpec.otherNames := .empty
  deriving DecidableEq

namespace JobSpec

def record : Record JobSpec :=
  (Record.const JobSpec.mk)
    |>.and (.optional "activeDeadlineSeconds" Decode.signed64)
    |>.and (.optional "backoffLimit" Decode.signed32)
    |>.and (.optional "completions" Decode.signed32)
    |>.and (.optional "parallelism" Decode.signed32)
    |>.and (.optional "ttlSecondsAfterFinished" Decode.signed32)
    |>.and (.optional "suspend" Decode.boolean)
    |>.and (.orElse "template" PodTemplate.decode {})
    |>.andOthers

def decode : Decoder JobSpec := Record.object "JobSpec" record

/-- The fields that are written, but for those that nothing looks into. -/
def ownFields (s : JobSpec) : List (String × Option Json) := [
  ("activeDeadlineSeconds", s.activeDeadlineSeconds.map Json.int),
  ("backoffLimit", s.backoffLimit.map Json.int),
  ("completions", s.completions.map Json.int),
  ("parallelism", s.parallelism.map Json.int),
  ("ttlSecondsAfterFinished", s.ttlSecondsAfterFinished.map Json.int),
  ("suspend", s.suspend.map Json.bool),
  ("template", some s.template.encode)]

def encode (s : JobSpec) : Json := Json.ofFields (s.ownFields ++ s.others.fields)

end JobSpec

/-- What a job is made from. -/
structure JobTemplate where
  metadata : Option Metadata := none
  spec : Option JobSpec := none
  deriving DecidableEq

namespace JobTemplate

def record : Record JobTemplate :=
  (Record.const JobTemplate.mk)
    |>.and (.optional "metadata" Metadata.decode)
    |>.and (.optional "spec" JobSpec.decode)

def decode : Decoder JobTemplate := Record.object "JobTemplateSpec" record

def encode (t : JobTemplate) : Json :=
  Json.ofFields [("metadata", t.metadata.map Metadata.encode), ("spec", t.spec.map JobSpec.encode)]

end JobTemplate

/-- What the cluster reports about a job. -/
structure JobCondition where
  type : String
  status : String
  others : OtherFields ["lastProbeTime", "lastTransitionTime", "message", "reason"] := .empty
  deriving DecidableEq

namespace JobCondition

def record : Record JobCondition :=
  (Record.const JobCondition.mk)
    |>.and (.orElse "type" Decode.text "")
    |>.and (.orElse "status" Decode.text "")
    |>.andOthers

def decode : Decoder JobCondition := Record.object "JobCondition" record

def encode (c : JobCondition) : Json :=
  Json.ofFields ([("type", some (.str c.type)), ("status", some (.str c.status))] ++ c.others.fields)

end JobCondition

/-- The names of the fields of a job's status that nothing looks into. -/
def JobStatus.otherNames : List String :=
  ["active", "completedIndexes", "completionTime", "failed", "failedIndexes", "ready", "startTime",
    "succeeded", "terminating", "uncountedTerminatedPods"]

structure JobStatus where
  conditions : Option (List JobCondition) := none
  others : OtherFields JobStatus.otherNames := .empty
  deriving DecidableEq

namespace JobStatus

def record : Record JobStatus :=
  (Record.const JobStatus.mk)
    |>.and (.optional "conditions" (Decode.list JobCondition.decode))
    |>.andOthers

def decode : Decoder JobStatus := Record.object "JobStatus" record

def encode (s : JobStatus) : Json :=
  Json.ofFields ([("conditions", s.conditions.map (Encode.list JobCondition.encode))] ++ s.others.fields)

end JobStatus

structure Job where
  metadata : Metadata := {}
  spec : Option JobSpec := none
  status : Option JobStatus := none
  deriving DecidableEq

namespace Job

def apiVersion : String := "batch/v1"

def kind : String := "Job"

/-- A string that has to be a given one. -/
def fixedText (expected : String) : Decoder Unit where
  run value := do
    let s ← Decode.text value
    if s = expected then .ok () else .error (.invalidValue (.str s) expected)
  shape := Decode.text.shape

def record : Record Job :=
  (Record.const fun (_ _ : Unit) => Job.mk)
    |>.and (.defaulted "apiVersion" (fixedText apiVersion) ())
    |>.and (.defaulted "kind" (fixedText kind) ())
    |>.and (.orElse "metadata" Metadata.decode {})
    |>.and (.optional "spec" JobSpec.decode)
    |>.and (.optional "status" JobStatus.decode)

def decode : Decoder Job := Record.object "Job" record

def encode (j : Job) : Json :=
  Json.ofFields [
    ("apiVersion", some (.str apiVersion)),
    ("kind", some (.str kind)),
    ("metadata", some j.metadata.encode),
    ("spec", j.spec.map JobSpec.encode),
    ("status", j.status.map JobStatus.encode)]

def name (j : Job) : String := j.metadata.nameAny

end Job

end StreamOperator
