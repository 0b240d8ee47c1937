import StreamOperator.Cluster.Access
import StreamOperator.Cluster.Exchange
import StreamOperator.Kube.Report

/-!
# A cluster behind a server

The operations on a cluster as requests to a server. Annotations and statuses are changed by merge
patches; jobs are deleted in the background. A resource that is not found when it is looked up is no
failure.
-/

set_option autoImplicit false

namespace StreamOperator

/-- A patch that sets an annotation, or removes it when there is no value. -/
def annotationPatch (key : String) (value : Option String) : Json :=
  .obj [("metadata", .obj [("annotations", .obj [(key, Encode.optional Json.str value)])])]

def statusPatch (status : Json) : Json := .obj [("status", status)]

/-- A server that requests are sent to. -/
structure Server (σ : Type) where
  /-- The name recorded on every write. -/
  fieldManager : String
  send : Request → StateM σ Reply

namespace Server

variable {σ α : Type}

/-- Sends a request, if it can be built, and reads the reply. -/
def ask (s : Server σ) (read : String → Except Json.TextError α) (request : Except BuildFault Request) :
    Act σ α := do
  match request with
  | .error fault => throw (.client ("Failed to build request: " ++ fault.message))
  | .ok request => Act.ofExcept ((← s.send request).read read)

/-- A result, or none for what is not found. -/
def orMissing (result : Except Failure α) : Except Failure (Option α) :=
  match result with
  | .ok a => .ok (some a)
  | .error e => if e.apiCode? = some 404 then .ok none else .error e

/-- What is addressed has to have a name. -/
def requireName (name : String) : Except BuildFault Unit :=
  if name = "" then .error .emptyName else .ok ()

/-- The target of a write, which records who made it in at most 128 bytes. -/
def writeTarget (s : Server σ) (path parameters : String) : Except BuildFault String :=
  if 128 < s.fieldManager.utf8ByteSize then .error (.fieldManager parameters)
  else .ok (path ++ Target.query [("fieldManager", s.fieldManager)])

def look (s : Server σ) (decode : Decoder α) (c : Coordinates) (space name : String) :
    Act σ (Option α) := do
  let request := do
    requireName name
    Request.build .get (c.resourcePath space name) none
  Act.ofExcept (orMissing (← (s.ask decode.ofText request).attempt))

/-- Sends a patch of a resource or of a part of it; the patched resource is read and dropped. -/
def patch (s : Server σ) (decode : Decoder α) (c : Coordinates) (space name part : String)
    (change : Json) : Act σ Unit := do
  let request := do
    requireName name
    let target ← s.writeTarget (c.resourcePath space name ++ part) "PatchParams"
    Request.build .patch target (some (.mergePatch, change))
  let _ ← s.ask decode.ofText request

def create (s : Server σ) (job : Job) (space : String) : Act σ Unit := do
  let request := do
    let target ← s.writeTarget (Coordinates.jobs.path (some space)) "PostParams"
    Request.build .post target (some (.value, job.encode))
  let _ ← s.ask Job.decode.ofText request

/-- The answer to a deletion: a report, or the job as it was. -/
def readDeletion (text : String) : Except Json.TextError Unit := do
  let value ← Decode.json.ofText text
  if value.field? "kind" = some (.str "Status") then
    let _ ← Report.decode.ofText text
  else
    let _ ← Job.decode.ofText text

def deletion : Json := .obj [("propagationPolicy", .str "Background")]

def delete (s : Server σ) (space name : String) : Act σ Unit := do
  let request := do
    requireName name
    Request.build .delete (Coordinates.jobs.resourcePath space name ++ Target.query [])
      (some (.value, deletion))
  s.ask readDeletion request

/-- The operations of a cluster as requests to the server. -/
def api (s : Server σ) : ClusterApi σ where
  getResource c space name := s.look Resource.decode c space name
  patchStatus c space name status :=
    s.patch Resource.decode c space name "/status" (statusPatch status)
  annotateResource c space name key value :=
    s.patch Resource.decode c space name "" (annotationPatch key value)
  getJob space name := s.look Job.decode .jobs space name
  sendJob job space := s.create job space
  deleteJob space name := s.delete space name
  annotateJob space name key value :=
    s.patch Job.decode .jobs space name "" (annotationPatch key value)

end Server

end StreamOperator
