import StreamOperator.Decision.Job
import StreamOperator.Decision.Stream
import StreamOperator.Event.Dedup
import StreamOperator.Handler

/-!
# Reconcilers

A reconciler answers an event with commands. It looks up what the decision needs besides the event:
the job that runs the stream, or the definition that owns the job. Events that repeat a version are
dropped before anything is looked up.
-/

set_option autoImplicit false

namespace StreamOperator

/-- A reconciler for the events of resources of one type. -/
structure Reconciler (σ α : Type) where
  /-- The name of its pipeline. -/
  name : String
  /-- The kind its resources are remembered under. -/
  kind : String
  metadata : α → Metadata
  /-- The commands an event calls for. -/
  plan : ClusterApi σ → Event α → Act σ (List Command)

namespace Reconciler

variable {σ α : Type}

/-- The commands for the event of a stream definition. -/
def planStream (c : Coordinates) (api : ClusterApi σ) (event : Event Resource) :
    Act σ (List Command) := do
  let d : Definition := ⟨event.resource, c⟩
  if event.type = .deleted then return []
  let job ← api.getJob d.space d.id
  return d.react event.type job

/-- The reconciler of the stream definitions of a type. -/
def stream (c : Coordinates) : Reconciler σ Resource where
  name := "stream-reconciler/" ++ c.kind
  kind := c.kind
  metadata := Resource.metadata
  plan := planStream c

/-- The definition that owns a job. -/
def owner (api : ClusterApi σ) (job : Job) : Act σ (Option Definition) := do
  match job.owner? with
  | none => return none
  | some ref =>
    let resource ← api.getResource ref.coordinates ref.space ref.name
    return resource.map fun r => ⟨r, ref.coordinates⟩

/-- The commands for the event of a job. -/
def planJob (api : ClusterApi σ) (event : Event Job) : Act σ (List Command) := do
  let d ← if event.type = .modified then pure none else owner api event.resource
  return event.resource.react event.type d

/-- The reconciler of the jobs of every kind of stream. -/
def job : Reconciler σ Job where
  name := "job-reconciler"
  kind := "Job"
  metadata := Job.metadata
  plan := planJob

/-- Carries out what an event that passed calls for. -/
def perform (r : Reconciler σ α) (h : Handler σ) (event : Event α) : Act σ Unit := do
  let commands ← r.plan h.api event
  h.handleAll commands

/-- Processes an event: what is remembered afterwards, and what is done. -/
def process (r : Reconciler σ α) (h : Handler σ) (choice : Nat) (d : Deduplicator)
    (event : Event α) : Deduplicator × Act σ Unit :=
  let (passes, d) := d.filter choice r.kind (r.metadata event.resource)
  (d, if passes then r.perform h event else pure ())

end Reconciler

end StreamOperator
