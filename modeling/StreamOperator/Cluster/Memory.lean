import StreamOperator.Cluster.Access
import StreamOperator.Event.Buffer
import StreamOperator.Table

/-!
# A cluster in memory

Resources and jobs are kept in tables. Every write gives its target a new version and is recorded;
operations can be made to fail. Watches are buffers that are fed explicitly; each has a ticket that
tells it from all others.
-/

set_option autoImplicit false

namespace StreamOperator

/-- The place of a resource: the plural of its type, its namespace and its name. -/
structure ResourceKey where
  plural : String
  space : String
  name : String
  deriving DecidableEq, Repr

structure JobKey where
  space : String
  name : String
  deriving DecidableEq, Repr

/-- The order of jobs: by namespace, then by name. -/
def JobKey.le (a b : JobKey) : Bool := a.space < b.space || (a.space == b.space && a.name ≤ b.name)

/-- A watch on the resources of a type, or on all jobs when it names none. -/
structure Watch (α : Type) where
  ticket : Nat
  plural : String
  buffer : Buffer α

structure Cluster where
  resources : Table ResourceKey Resource := []
  jobs : Table JobKey Job := []
  /-- The operations that fail. -/
  failing : List String := []
  /-- The types that do not exist. -/
  missing : List String := []
  /-- The writes so far, the latest first. -/
  calls : List String := []
  /-- The number of versions given out. -/
  version : Nat := 0
  resourceWatches : List (Watch Resource) := []
  jobWatches : List (Watch Job) := []
  /-- The number of tickets given out. -/
  tickets : Nat := 0

namespace Cluster

/-! ## Content -/

def resource? (k : Cluster) (c : Coordinates) (space name : String) : Option Resource :=
  Table.get? ⟨c.plural, space, name⟩ k.resources

def job? (k : Cluster) (space name : String) : Option Job := Table.get? ⟨space, name⟩ k.jobs

def insertResource (k : Cluster) (c : Coordinates) (r : Resource) : Cluster :=
  { k with
    resources := Table.set ⟨c.plural, r.metadata.space.getD "", r.name⟩ r k.resources }

def insertJob (k : Cluster) (j : Job) : Cluster :=
  { k with jobs := Table.set ⟨j.metadata.space.getD "", j.name⟩ j k.jobs }

def removeJob (k : Cluster) (space name : String) : Cluster :=
  { k with jobs := Table.erase ⟨space, name⟩ k.jobs }

def sortedJobs (k : Cluster) : List Job :=
  (k.jobs.mergeSort fun a b => JobKey.le a.1 b.1).map Prod.snd

/-! ## Operations -/

/-- The refusal of a request. -/
def refusal (code : Nat) (message : String) : Failure := .api ⟨"Failure", message, "Test", code⟩

/-- Fails when the operation is one that fails. -/
def guardOperation (operation : String) : Act Cluster Unit := do
  if (← get).failing.contains operation then throw (refusal 500 "injected failure")

/-- Gives out a new version. -/
def newVersion : Act Cluster String := do
  modify fun k => { k with version := k.version + 1 }
  return toString (← get).version

/-- Records a write. -/
def record (call : String) : Act Cluster Unit := modify fun k => { k with calls := call :: k.calls }

def getResource (c : Coordinates) (space name : String) : Act Cluster (Option Resource) := do
  guardOperation "get_custom_resource"
  return (← get).resource? c space name

/-- Replaces a resource by a changed one of a new version. -/
def changeResource (c : Coordinates) (space name : String) (change : Resource → Resource) :
    Act Cluster Unit := do
  let version ← newVersion
  match (← get).resource? c space name with
  | none => throw (refusal 404 "not found")
  | some r =>
    let r := change r
    let r := { r with metadata := { r.metadata with resourceVersion := some version } }
    modify fun k => { k with resources := Table.set ⟨c.plural, space, name⟩ r k.resources }

/-- The phase a status names, if it is an object with a text there. -/
def phaseText (status : Json) : String := ((status.field? "phase").bind Json.text?).getD ""

def patchStatus (c : Coordinates) (space name : String) (status : Json) : Act Cluster Unit := do
  guardOperation "patch_custom_resource_status"
  changeResource c space name fun r => { r with data := r.data.insert "status" status }
  record ("patch_status " ++ c.plural ++ "/" ++ space ++ "/" ++ name ++ " " ++ phaseText status)

/-- The text of an annotation in the record of writes. -/
def changeText (key : String) (value : Option String) : String :=
  key ++ "=" ++ value.getD "<removed>"

def annotateResource (c : Coordinates) (space name key : String) (value : Option String) :
    Act Cluster Unit := do
  guardOperation "annotate_resource"
  changeResource c space name fun r => { r with metadata := r.metadata.annotate key value }
  record ("annotate " ++ c.plural ++ "/" ++ space ++ "/" ++ name ++ " " ++ changeText key value)

def getJob (space name : String) : Act Cluster (Option Job) := do
  guardOperation "get_job"
  return (← get).job? space name

def sendJob (job : Job) (space : String) : Act Cluster Unit := do
  guardOperation "send_job"
  if ((← get).job? space job.name).isSome then throw (refusal 409 "already exists")
  let version ← newVersion
  record ("send_job " ++ space ++ "/" ++ job.name)
  let job := { job with metadata := { job.metadata with resourceVersion := some version } }
  modify fun k => { k with jobs := Table.set ⟨space, job.name⟩ job k.jobs }

def deleteJob (space name : String) : Act Cluster Unit := do
  guardOperation "delete_job"
  if ((← get).job? space name).isNone then throw (refusal 404 "not found")
  modify fun k => k.removeJob space name
  record ("delete_job " ++ space ++ "/" ++ name)

def annotateJob (space name key : String) (value : Option String) : Act Cluster Unit := do
  guardOperation "annotate_job"
  let version ← newVersion
  match (← get).job? space name with
  | none => throw (refusal 404 "not found")
  | some job =>
    let changed := { job.metadata.annotate key value with resourceVersion := some version }
    modify fun k =>
      { k with jobs := Table.set ⟨space, name⟩ { job with metadata := changed } k.jobs }
    record ("annotate_job " ++ space ++ "/" ++ name ++ " " ++ changeText key value)

/-- The operations of the cluster in memory. -/
def api : ClusterApi Cluster where
  getResource := getResource
  patchStatus := patchStatus
  annotateResource := annotateResource
  getJob := getJob
  sendJob := sendJob
  deleteJob := deleteJob
  annotateJob := annotateJob

/-! ## Watches -/

/-- Subscribes to the resources of a type; the ticket names the subscription. -/
def watchResources (c : Coordinates) (capacity : Nat) : Act Cluster Nat := do
  let k ← get
  if k.missing.contains c.plural then throw (.watchTargetMissing c.display)
  set { k with
    tickets := k.tickets + 1
    resourceWatches := k.resourceWatches
      ++ [Watch.mk k.tickets c.plural (Buffer.create c.plural capacity)] }
  return k.tickets

/-- Subscribes to jobs. -/
def watchJobs (capacity : Nat) : Act Cluster Nat := do
  let k ← get
  set { k with
    tickets := k.tickets + 1
    jobWatches := k.jobWatches
      ++ [Watch.mk k.tickets "jobs" (Buffer.create "jobs" capacity)] }
  return k.tickets

/-- Offers an event to the watches that pass a test, in order, and collects the answers. Watches
nobody reads any more are dropped. -/
def offer {α : Type} (concerned : Watch α → Bool) (event : Event α) :
    List (Watch α) → List (Except Failure Unit) × List (Watch α)
  | [] => ([], [])
  | w :: rest =>
    let (answers, others) := offer concerned event rest
    if !concerned w then (answers, w :: others)
    else if w.buffer.isClosed then (answers, others)
    else
      let (answer, buffer) := w.buffer.push event
      (answer :: answers, { w with buffer := buffer } :: others)

/-- Delivers an event to every live watch on a type. -/
def emitResource (k : Cluster) (plural : String) (event : Event Resource) :
    List (Except Failure Unit) × Cluster :=
  let (answers, watches) := offer (fun w => w.plural == plural) event k.resourceWatches
  (answers, { k with resourceWatches := watches })

/-- Delivers an event to every live watch on jobs. -/
def emitJob (k : Cluster) (event : Event Job) : List (Except Failure Unit) × Cluster :=
  let (answers, watches) := offer (fun _ => true) event k.jobWatches
  (answers, { k with jobWatches := watches })

/-- The number of live watches on a type. -/
def watcherCount (k : Cluster) (plural : String) : Nat :=
  k.resourceWatches.countP fun w => w.plural == plural && !w.buffer.isClosed

end Cluster

namespace Watch

variable {α : Type}

/-- The buffer of a ticket. -/
def buffer? (ticket : Nat) (watches : List (Watch α)) : Option (Buffer α) :=
  (watches.find? fun w => w.ticket == ticket).map Watch.buffer

/-- Replaces the buffer of a ticket. -/
def setBuffer (ticket : Nat) (buffer : Buffer α) (watches : List (Watch α)) : List (Watch α) :=
  watches.map fun w => if w.ticket == ticket then { w with buffer := buffer } else w

end Watch

end StreamOperator
