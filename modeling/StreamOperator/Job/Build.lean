import StreamOperator.Error
import StreamOperator.Job.Template
import StreamOperator.Job.View
import StreamOperator.Stream.Environment

/-!
# Building jobs

A job is made from a template for a stream: named after the stream, marked with its owner and the
checksum of its configuration, and with the stream's environment in every container.
-/

set_option autoImplicit false

namespace StreamOperator

/-- The container with more variables and sources after its own. -/
def Container.extend (c : Container) (e : Environment) : Container :=
  { c with
    env := some (c.env.getD [] ++ e.vars)
    envFrom := some (c.envFrom.getD [] ++ e.sources) }

/-- Extends every container of a pod. -/
def PodSpec.extend (p : PodSpec) (e : Environment) : PodSpec :=
  { p with
    containers := p.containers.map (Container.extend · e)
    initContainers := p.initContainers.map fun cs => cs.map (Container.extend · e) }

namespace Job

/-- The labels by which a pod is traced back to its stream. -/
def markPod (v : StreamView) (labels : Dictionary String) : Dictionary String :=
  (labels.insert Key.streamId v.id).insert Key.streamKind v.kind

def buildLabels (v : StreamView) (backfilling : Bool) (labels : Dictionary String) :
    Dictionary String :=
  (markPod v labels).insert Key.backfilling (Environment.flag backfilling)

def buildAnnotations (v : StreamView) (c : Coordinates) (annotations : Dictionary String) :
    Dictionary String :=
  (((annotations.insert Key.checksum v.checksum).insert Key.apiGroup c.group).insert Key.apiVersion
    c.version).insert Key.apiPlural c.plural

/-- The pod template of a job: its containers extended, and its labels, if it has metadata, marked. -/
def buildPod (v : StreamView) (e : Environment) (pod : PodTemplate) : PodTemplate where
  metadata := pod.metadata.map fun m => { m with labels := some (markPod v (m.labels.getD .empty)) }
  spec := pod.spec.map (PodSpec.extend · e)

/-- The job of a stream, made from a template that has a job specification. -/
def build (template : StreamTemplate) (v : StreamView) (c : Coordinates) (backfilling : Bool)
    (secretFields : List String) : Except Failure Job :=
  match template.template.spec with
  | none =>
    .error (.configuration
      ("Job template " ++ template.metadata.nameAny ++ " has no job spec"))
  | some spec =>
    let environment := v.environment backfilling secretFields
    let m := template.template.metadata.getD {}
    .ok {
      metadata := {
        name := some v.id
        space := some v.space
        labels := some (buildLabels v backfilling (m.labels.getD .empty))
        annotations := some (buildAnnotations v c (m.annotations.getD .empty)) }
      spec := some { spec with template := buildPod v environment spec.template } }

end Job

end StreamOperator
