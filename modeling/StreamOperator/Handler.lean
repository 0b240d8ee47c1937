import StreamOperator.Cluster.Access
import StreamOperator.Command
import StreamOperator.Job.Build
import StreamOperator.Toll

/-!
# Carrying out commands

A command is carried out against a cluster, with the stream classes that are registered at the
moment. What a command asks for may be there already: a job that exists, a job that is gone, an
annotation or a status that matches are all successes. Time stamps take the text of the present
moment.
-/

set_option autoImplicit false

namespace StreamOperator

/-- What commands are carried out with. -/
structure Handler (σ : Type) where
  api : ClusterApi σ
  /-- The class that serves a kind. -/
  classes : String → Option StreamClass
  /-- The present moment. -/
  now : String

/-- The toll of a command: to start a job, its class is looked up. -/
def Command.toll (c : Command) : Toll := if c.isStartJob then .single else .free

namespace Handler

variable {σ : Type}

/-! ## Statuses -/

/-- The status to be written for a stream, or none when there is nothing to write. -/
def prepareStreamStatus (h : Handler σ) (stream : StreamRef) (phase : StreamPhase)
    (pending : List Condition) : Act σ (Option Json) := do
  match ← h.api.getResource stream.coordinates stream.space stream.name with
  | none => return none
  | some resource =>
    let current := (Definition.mk resource stream.coordinates).status?.getD {}
    return (current.advance h.now phase pending).map StreamStatus.encode

def updateStatus (h : Handler σ) (stream : StreamRef) (phase : StreamPhase)
    (pending : List Condition) : Act σ Unit := do
  match ← h.prepareStreamStatus stream phase pending with
  | none => return
  | some status => h.api.patchStatus stream.coordinates stream.space stream.name status

/-- The status on the resource of a stream class, unless it is malformed. -/
def classStatus? (r : Resource) : Option ClassStatus :=
  (r.data.get? "status").bind fun value => (ClassStatus.decode value).toOption

/-- The status to be written for a stream class, or none when there is nothing to write. -/
def prepareClassStatus (h : Handler σ) (c : ClassRef) (phase : ClassPhase)
    (pending : List Condition) : Act σ (Option Json) := do
  match ← h.api.getResource StreamClass.coordinates c.space c.name with
  | none => return none
  | some resource =>
    let current := (classStatus? resource).getD {}
    return (current.advance h.now phase pending).map ClassStatus.encode

/-- Writes a prepared status. -/
def commitClassStatus (h : Handler σ) (c : ClassRef) (status : Json) : Act σ Unit :=
  h.api.patchStatus StreamClass.coordinates c.space c.name status

def setClassStatus (h : Handler σ) (c : ClassRef) (phase : ClassPhase)
    (pending : List Condition) : Act σ Unit := do
  match ← h.prepareClassStatus c phase pending with
  | none => return
  | some status => h.commitClassStatus c status

/-! ## Annotations -/

/-- The value of an annotation on its target; none when the target is gone. -/
def readAnnotation (h : Handler σ) (target : AnnotationTarget) (key : String) :
    Act σ (Option (Option String)) := do
  match target with
  | .definition stream =>
    let resource ← h.api.getResource stream.coordinates stream.space stream.name
    return resource.map fun r => r.metadata.annotation? key
  | .job space name =>
    let job ← h.api.getJob space name
    return job.map fun j => j.metadata.annotation? key

/-- Whether there is something to write, from what was read: the target is there, its value differs
from the new one and is the expected one, if one is expected. -/
def shouldAnnotate (read : Option (Option String)) (value expected : Option String) : Bool :=
  match read with
  | none => false
  | some current => current != value && (expected.isNone || current == expected)

/-- Writes an annotation; a target that is gone by now is no failure. -/
def writeAnnotation (h : Handler σ) (target : AnnotationTarget) (key : String)
    (value : Option String) : Act σ Unit := do
  let write :=
    match target with
    | .definition stream =>
      h.api.annotateResource stream.coordinates stream.space stream.name key value
    | .job space name => h.api.annotateJob space name key value
  match ← write.attempt with
  | .ok () => return
  | .error e => if e.isNotFound then return else throw e

/-- Sets or removes an annotation. -/
def annotate (h : Handler σ) (target : AnnotationTarget) (key : String)
    (value expected : Option String) : Act σ Unit := do
  let read ← h.readAnnotation target key
  if shouldAnnotate read value expected then h.writeAnnotation target key value

/-! ## Jobs -/

/-- The template a stream refers to. -/
def findTemplate (h : Handler σ) (d : Definition) (ref : TemplateRef) :
    Act σ StreamTemplate := do
  let space := ref.space.getD d.space
  match ← h.api.getResource StreamTemplate.coordinates space ref.name with
  | none => throw (.missingReference ("Job template " ++ space ++ "/" ++ ref.name ++ " not found"))
  | some resource => Act.ofExcept (resource.parse StreamTemplate.decode)

/-- Finds the stream class and the job template and builds the job. -/
def prepareJob (h : Handler σ) (d : Definition) (backfilling : Bool) : Act σ Job := do
  match h.classes d.coordinates.kind with
  | none =>
    throw (.missingReference
      ("No StreamClass configuration found for kind " ++ d.coordinates.kind))
  | some c =>
    match d.view.templateRef? backfilling with
    | none =>
      throw (.missingReference
        ("Stream spec has no " ++ TemplateRef.field backfilling ++ " reference"))
    | some ref =>
      let template ← h.findTemplate d ref
      Act.ofExcept (Job.build template d.view d.coordinates backfilling c.spec.secretRefFields)

/-- The reason of a failure that is the fault of the stream's configuration. -/
def configurationFault? : Failure → Option String
  | .missingReference reason | .configuration reason => some reason
  | _ => none

/-- Creates the job of a stream. What is wrong with its configuration is written to its status; so
is a refusal of the job, other than that it exists already. -/
def startJob (h : Handler σ) (d : Definition) (backfilling : Bool) : Act σ Unit := do
  match ← (h.prepareJob d backfilling).attempt with
  | .error e =>
    match configurationFault? e with
    | some reason =>
      h.updateStatus d.reference .failed
        (StreamPhase.conditions .failed Condition.Reason.internalError reason)
    | none => throw e
  | .ok job =>
    match ← (h.api.sendJob job d.space).attempt with
    | .ok () => return
    | .error e =>
      if e.isConflict then return
      h.updateStatus d.reference .failed
        (StreamPhase.conditions .failed Condition.Reason.jobStartFailed
          ("Failed to start job: " ++ e.message))
      throw e

/-- Deletes a job; one that is gone is no failure. -/
def stopJob (h : Handler σ) (space name : String) : Act σ Unit := do
  match ← (h.api.deleteJob space name).attempt with
  | .ok () => return
  | .error e => if e.isNotFound then return else throw e

/-! ## Commands -/

def handle (h : Handler σ) : Command → Act σ Unit
  | .startJob d backfilling => h.startJob d backfilling
  | .stopJob space name => h.stopJob space name
  | .annotate target key value => h.annotate target key (some value) none
  | .unannotate target key expected => h.annotate target key none expected
  | .updateStatus stream phase conditions => h.updateStatus stream phase conditions
  | .setClassStatus c phase conditions => h.setClassStatus c phase conditions

/-- Carries out commands in order, up to the first failure. -/
def handleAll (h : Handler σ) : List Command → Act σ Unit
  | [] => return
  | c :: rest => do
    h.handle c
    h.handleAll rest

end Handler

end StreamOperator
