import StreamOperator.Proofs.Handler.Owners
import StreamOperator.Proofs.Reconcile.Steps
import StreamOperator.Proofs.Stream.Checksum

/-!
# Jobs that were just built

A job says of itself for which definition it was built, whatever labels and annotations its template
brings along (`Job.describes_of_build`). It is found where a reconciler looks for the job of the
definition, and as long as the payload stays the same nothing is done about it
(`built_job_is_settled`).
-/

set_option autoImplicit false

namespace StreamOperator

/-- The job records what it was built for: its owner, the space and name it is looked up by, the kind of
its run and the checksum of the configuration. -/
structure Job.Describes (job : Job) (d : Definition) (backfilling : Bool) : Prop where
  owner : job.owner? = some d.reference
  name : job.metadata.name = some d.id
  space : job.metadata.space = some d.space
  run : job.isBackfilling = backfilling
  checksum : job.checksum? = some d.checksum

namespace Job

variable {template : StreamTemplate} {v : StreamView} {c : Coordinates} {d d' : Definition}
  {backfilling : Bool} {fields : List String} {job : Job}

/-- That the template has no job specification is all that a build fails for. -/
theorem build_cases (template : StreamTemplate) (v : StreamView) (c : Coordinates)
    (backfilling : Bool) (fields : List String) :
    (template.template.spec = none ∧ build template v c backfilling fields = .error (.configuration
      ("Job template " ++ template.metadata.nameAny ++ " has no job spec"))) ∨
    (template.template.spec.isSome = true ∧
      ∃ job, build template v c backfilling fields = .ok job) := by
  unfold build
  cases template.template.spec with
  | none => exact .inl ⟨rfl, rfl⟩
  | some spec => exact .inr ⟨rfl, _, rfl⟩

theorem metadata_build (built : build template v c backfilling fields = .ok job) :
    job.metadata.name = some v.id ∧ job.metadata.space = some v.space := by
  unfold build at built
  split at built
  · cases built
  · obtain rfl := Except.ok.inj built
    exact ⟨rfl, rfl⟩

theorem describes_of_build
    (built : build template d.view d.coordinates backfilling fields = .ok job) :
    job.Describes d backfilling where
  owner := owner?_build built
  name := (metadata_build built).1
  space := (metadata_build built).2
  run := (build_ok built).2.2
  checksum := checksum?_build built

namespace Describes

theorem key (describes : job.Describes d backfilling) : job.key = d.jobKey := by
  rw [Job.key, Job.name, Metadata.nameAny, Job.space, describes.name, describes.space]
  rfl

/-- Nothing is done about a job that has the checksum of the payload as it is. -/
theorem react_modified (describes : job.Describes d backfilling)
    (same : Json.Same d'.payload d.payload) (unsuspended : d'.isSuspended = false)
    (unrequested : d'.isReloadRequested = false) : d'.react .modified (some job) = [] := by
  have current : job.checksum? = some (configurationChecksum d'.payload) := by
    rw [describes.checksum, configurationChecksum, same.canonical_eq]
    rfl
  rw [Definition.react_modified job unsuspended unrequested, if_pos current]

/-- Where the job is stored a reconciler finds it for each version of its definition. -/
theorem planStream (describes : job.Describes d backfilling) {k : Cluster}
    (stored : Table.get? job.key k.jobs = some job) (works : k.failing.contains "get_job" = false)
    (version : d'.jobKey = d.jobKey) {type : EventType} (present : type ≠ .deleted) :
    Reconciler.planStream d'.coordinates Cluster.api ⟨type, d'.resource⟩ k
      = (.ok (d'.react type (some job)), k) := by
  have found : Table.get? d'.jobKey k.jobs = some job := by
    rw [version, ← describes.key, stored]
  have planned : Reconciler.planStream d'.coordinates Cluster.api ⟨type, d'.resource⟩ k
      = (.ok (d'.react type (Table.get? d'.jobKey k.jobs)), k) :=
    Reconciler.planStream_of_works present works
  rw [planned, found]

end Describes

end Job

/-- A job is built from every template that has a job specification. It describes the definition it was
built for, is found as the job of every version of that definition, and nothing is done about it on a
modification that leaves the payload the same, unless the stream is to pause or to reload. -/
theorem built_job_is_settled (template : StreamTemplate) (d : Definition) (backfilling : Bool)
    (fields : List String) :
    (∀ failure, Job.build template d.view d.coordinates backfilling fields = .error failure ↔
      template.template.spec = none ∧ failure = .configuration
        ("Job template " ++ template.metadata.nameAny ++ " has no job spec")) ∧
    (template.template.spec.isSome = true →
      ∃ job, Job.build template d.view d.coordinates backfilling fields = .ok job ∧
        job.Describes d backfilling ∧
        (∀ d' : Definition, Json.Same d'.payload d.payload → d'.isSuspended = false →
          d'.isReloadRequested = false → d'.react .modified (some job) = []) ∧
        ∀ (k : Cluster) (d' : Definition) (type : EventType), d'.jobKey = d.jobKey →
          Table.get? job.key k.jobs = some job → k.failing.contains "get_job" = false →
          type ≠ .deleted → Reconciler.planStream d'.coordinates Cluster.api ⟨type, d'.resource⟩ k
            = (.ok (d'.react type (some job)), k)) := by
  rcases Job.build_cases template d.view d.coordinates backfilling fields with
    ⟨bare, failed⟩ | ⟨complete, job, built⟩
  · refine ⟨fun failure => ?_, fun complete => ?_⟩
    · rw [failed, Except.error.injEq, eq_comm]
      exact (and_iff_right bare).symm
    · rw [bare] at complete
      cases complete
  · have describes := Job.describes_of_build built
    refine ⟨fun failure => ?_, fun _ => ⟨job, built, describes, ?_, ?_⟩⟩
    · rw [built]
      constructor
      · intro failed
        cases failed
      · rintro ⟨bare, -⟩
        rw [bare] at complete
        cases complete
    · exact fun d' same unsuspended unrequested => describes.react_modified same unsuspended unrequested
    · exact fun k d' type version stored works present =>
        describes.planStream stored works version present

section Orders

/-- A template that was taken from the backfill of another stream, with that job's labels. -/
def reusedTemplate : StreamTemplate where
  metadata := Orders.template.metadata
  template := {
    metadata := some {
      labels := some (Dictionary.ofList [(Key.streamId, "invoices"), (Key.streamKind, "InvoiceStream"),
        (Key.backfilling, "true")])
      annotations := some (Dictionary.ofList [(Key.checksum, "outdated"), (Key.apiGroup, "example.com"),
        (Key.state, StreamState.reloadRequested.text)]) }
    spec := some {} }

/-- The orders with a payload. -/
def ordersWith (version : String) (payload : List (String × Json)) : Definition where
  resource := { (Orders.definition version none).resource with
    data := Dictionary.ofList [("spec", .obj payload)] }
  coordinates := Orders.kind

/-- The job of the orders is not restarted when the fields of their payload change places. -/
theorem reordered_orders_leave_job :
    let d := ordersWith "1" [("table", .str "orders"), ("rate", .int 1)]
    let d' := ordersWith "2" [("rate", .int 1), ("table", .str "orders")]
    ∃ job, Job.build reusedTemplate d.view d.coordinates false [] = .ok job ∧
      job.owner? = some d.reference ∧ job.isBackfilling = false ∧
      Reconciler.planStream d'.coordinates Cluster.api ⟨.modified, d'.resource⟩
        (Orders.cluster d' [job]) = (.ok [], Orders.cluster d' [job]) := by
  intro d d'
  obtain ⟨job, built, describes, settled, found⟩ :=
    (built_job_is_settled reusedTemplate d false []).2 rfl
  have same : Json.Same d'.payload d.payload := Json.canonical_eq_iff.1 (by decide +kernel)
  have placed : job.key = Orders.key := describes.key
  have stored : Table.get? job.key (Orders.cluster d' [job]).jobs = some job := by
    rw [placed]
    rfl
  refine ⟨job, built, describes.owner, describes.run, ?_⟩
  rw [found (Orders.cluster d' [job]) d' .modified rfl stored rfl (by decide),
    settled d' same rfl rfl]

end Orders

end StreamOperator
