import StreamOperator.Proofs.Handler.ClassStatus

/-!
# What a command leaves alone

A command has at most one resource and one job as its target, and whatever operations fail it leaves all
others as they are. Of the target it changes what it is about: one annotation, the status, or whether the
job is there (`Command.Confined`). A command that fails has changed nothing at all, with one exception:
that a job was refused may have been told in the status of its stream (`commands_are_confined`).
-/

set_option autoImplicit false

namespace StreamOperator

/-! ## Changes of one entry -/

namespace Table

variable {κ β : Type} [DecidableEq κ] {key : κ} {change : Option β → Option β → Prop}
  {table table' : Table κ β} {value : β}

/-- At most the entry under one key is changed, in a certain way. -/
structure Alters (key : κ) (change : Option β → Option β → Prop) (table table' : Table κ β) : Prop where
  elsewhere : ∀ other, other ≠ key → get? other table' = get? other table
  target : change (get? key table) (get? key table')

theorem Alters.refl (same : change (get? key table) (get? key table)) : Alters key change table table :=
  ⟨fun _ _ => rfl, same⟩

theorem Alters.set (changed : change (get? key table) (some value)) :
    Alters key change table (Table.set key value table) where
  elsewhere _ differ := get?_set_of_ne differ value table
  target := by rwa [get?_set_self]

theorem Alters.erase (changed : change (get? key table) none) :
    Alters key change table (Table.erase key table) where
  elsewhere _ differ := get?_erase_of_ne differ table
  target := by rwa [get?_erase_self]

end Table

/-! ## Targets -/

/-- The metadata are the same but for one annotation and the version. -/
structure Metadata.AgreesBut (key : String) (m m' : Metadata) : Prop where
  rest : { m' with annotations := m.annotations, resourceVersion := m.resourceVersion } = m
  others : ∀ other, other ≠ key → m'.annotation? other = m.annotation? other

/-- The resources are the same but for one annotation and the version. -/
structure Resource.AgreesButAnnotation (key : String) (r r' : Resource) : Prop where
  types : r'.types = r.types
  data : r'.data = r.data
  metadata : r.metadata.AgreesBut key r'.metadata

/-- The resources are the same but for the status and the version. -/
structure Resource.AgreesButStatus (r r' : Resource) : Prop where
  types : r'.types = r.types
  metadata : { r'.metadata with resourceVersion := r.metadata.resourceVersion } = r.metadata
  others : ∀ field, field ≠ "status" → r'.data.get? field = r.data.get? field

/-- The jobs are the same but for one annotation and the version. -/
structure Job.AgreesButAnnotation (key : String) (job job' : Job) : Prop where
  spec : job'.spec = job.spec
  status : job'.status = job.status
  metadata : job.metadata.AgreesBut key job'.metadata

/-- A job is there that has the place it was created for, if there was none; one that was there stays. -/
inductive Job.Created (key : JobKey) : Option Job → Option Job → Prop where
  | kept {entry : Option Job} : Created key entry entry
  | created {job : Job} (place : job.key = key) : Created key none (some job)

/-- A job is gone or stays. -/
inductive Job.Removed : Option Job → Option Job → Prop where
  | kept {entry : Option Job} : Removed entry entry
  | removed {entry : Option Job} : Removed entry none

/-- The key of a class's resource. -/
def ClassRef.key (ref : ClassRef) : ResourceKey :=
  ⟨StreamClass.coordinates.plural, ref.space, ref.name⟩

section

variable {key : String} {value : Option String} {version : String}

theorem Metadata.AgreesBut.refl (m : Metadata) : m.AgreesBut key m := ⟨rfl, fun _ _ => rfl⟩

theorem Metadata.annotate_agreesBut (m : Metadata) : m.AgreesBut key
    { m.annotate key value with resourceVersion := some version } where
  rest := rfl
  others _ differ := m.annotation?_annotate_of_ne differ value

theorem Resource.AgreesButAnnotation.refl (r : Resource) : r.AgreesButAnnotation key r :=
  ⟨rfl, rfl, .refl _⟩

theorem Resource.AgreesButStatus.refl (r : Resource) : r.AgreesButStatus r := ⟨rfl, rfl, fun _ _ => rfl⟩

theorem Job.AgreesButAnnotation.refl (job : Job) : job.AgreesButAnnotation key job := ⟨rfl, rfl, .refl _⟩

theorem Resource.agreesButStatus_restated (r : Resource) (status : Json) :
    r.AgreesButStatus (Cluster.restated r status version) where
  types := rfl
  metadata := rfl
  others _ differ := r.data.get?_insert_of_ne differ status

end

theorem optionRel_refl {α : Type} {r : α → α → Prop} (refl : ∀ a, r a a) (entry : Option α) :
    Option.Rel r entry entry := by
  cases entry with
  | none => exact .none
  | some a => exact .some (refl a)

namespace Cluster

variable {k k' : Cluster} {key : ResourceKey} {jobKey : JobKey}

/-- What a cluster is apart from its content and the record of writes: which operations fail, which types
are missing, and the watches. -/
def setting (k : Cluster) : Cluster := { k with resources := [], jobs := [], calls := [], version := 0 }

/-- At most one resource is changed, in a certain way. -/
structure AltersResource (key : ResourceKey) (change : Resource → Resource → Prop) (k k' : Cluster) :
    Prop where
  setting : k'.setting = k.setting
  jobs : k'.jobs = k.jobs
  resources : Table.Alters key (Option.Rel change) k.resources k'.resources

/-- At most one job is changed, in a certain way. -/
structure AltersJob (key : JobKey) (change : Option Job → Option Job → Prop) (k k' : Cluster) :
    Prop where
  setting : k'.setting = k.setting
  resources : k'.resources = k.resources
  jobs : Table.Alters key change k.jobs k'.jobs

theorem AltersResource.refl {change : Resource → Resource → Prop} (same : ∀ r, change r r)
    (k : Cluster) : AltersResource key change k k := ⟨rfl, rfl, .refl (optionRel_refl same _)⟩

theorem AltersJob.refl {change : Option Job → Option Job → Prop} (same : ∀ entry, change entry entry)
    (k : Cluster) : AltersJob jobKey change k k := ⟨rfl, rfl, .refl (same _)⟩

/-- Everything stays but the resource and the job under certain keys. -/
structure Spares (resource? : Option ResourceKey) (job? : Option JobKey) (k k' : Cluster) : Prop where
  setting : k'.setting = k.setting
  resources : ∀ key, resource? ≠ some key → Table.get? key k'.resources = Table.get? key k.resources
  jobs : ∀ key, job? ≠ some key → Table.get? key k'.jobs = Table.get? key k.jobs

theorem AltersResource.spares {change : Resource → Resource → Prop} {job? : Option JobKey}
    (alters : k.AltersResource key change k') : k.Spares (some key) job? k' where
  setting := alters.setting
  resources other differ := alters.resources.elsewhere other fun same => differ (same ▸ rfl)
  jobs _ _ := by rw [alters.jobs]

theorem AltersJob.spares {change : Option Job → Option Job → Prop} {resource? : Option ResourceKey}
    (alters : k.AltersJob jobKey change k') : k.Spares resource? (some jobKey) k' where
  setting := alters.setting
  resources _ _ := by rw [alters.resources]
  jobs other differ := alters.jobs.elsewhere other fun same => differ (same ▸ rfl)

theorem afterResource_alters {change : Resource → Resource → Prop} {r r' : Resource}
    (found : Table.get? key k.resources = some r) (changed : change r (versioned r' k.nextVersion))
    (call : String) : AltersResource key change k (k.afterResource key r' call) :=
  ⟨rfl, rfl, .set (by rw [found]; exact .some changed)⟩

theorem afterJob_alters {change : Option Job → Option Job → Prop} {job : Job}
    (changed : change (Table.get? jobKey k.jobs) (some (versionedJob job k.nextVersion)))
    (call : String) : AltersJob jobKey change k (k.afterJob jobKey job call) :=
  ⟨rfl, rfl, .set changed⟩

theorem afterDeletion_alters {change : Option Job → Option Job → Prop}
    (changed : change (Table.get? jobKey k.jobs) none) (call : String) :
    AltersJob jobKey change k (k.afterDeletion jobKey call) :=
  ⟨rfl, rfl, .erase changed⟩

/-! ## Amendments -/

variable {reading writing : String} {next : Cluster → Option Cluster}

/-- An amendment does what it writes, or nothing. -/
theorem amend_induction {P : Cluster → Prop} (stays : P k) (writes : ∀ k', next k = some k' → P k') :
    P (amend reading writing next k).2 := by
  rcases amend_snd reading writing next k with same | written
  · rwa [same]
  · exact writes _ written

/-- An amendment that fails has changed nothing. -/
theorem amend_of_error {e : Failure} (failed : (amend reading writing next k).1 = .error e) :
    (amend reading writing next k).2 = k := by
  unfold amend at failed ⊢
  split
  · rfl
  · rename_i granted
    rw [if_neg granted] at failed
    split
    · rfl
    · rename_i written
      simp only [written] at failed
      split
      · rfl
      · rename_i granted
        rw [if_neg granted] at failed
        cases failed

/-- The cluster has the status that the stream failed, and nothing else has happened to it. -/
def ToldFailed (k : Cluster) (stream : StreamRef) (k' : Cluster) : Prop :=
  ∃ r, ∃ s : StreamStatus, Table.get? stream.key k.resources = some r ∧ s.phase = some .failed ∧
    k' = k.afterResource stream.key { r with data := r.data.insert "status" s.encode }
      (patchCall stream.coordinates stream.space stream.name s.encode)

section

variable {P : Type} [DecidableEq P] {c : Coordinates} {space name : String}
  {current : Resource → Status P} {encode : Status P → Json} {now : String} {phase : P}
  {pending : List Condition}

theorem restate_alters (written : restate c space name current encode now phase pending k = some k') :
    AltersResource ⟨c.plural, space, name⟩ Resource.AgreesButStatus k k' := by
  obtain ⟨r, found, written⟩ := Option.bind_eq_some_iff.1 written
  obtain ⟨s, -, rfl⟩ := Option.map_eq_some_iff.1 written
  exact afterResource_alters found (r.agreesButStatus_restated (encode s)) _

end

end Cluster

/-! ## Single commands -/

namespace Handler

variable {h : Handler Cluster} {k : Cluster} {stream : StreamRef} {e : Failure}

theorem updateStatus_alters (inMemory : h.api = Cluster.api) (phase : StreamPhase)
    (pending : List Condition) (k : Cluster) : k.AltersResource stream.key Resource.AgreesButStatus
      (h.updateStatus stream phase pending k).2 := by
  rw [updateStatus_apply inMemory]
  exact Cluster.amend_induction (.refl .refl k) fun _ => Cluster.restate_alters

theorem setClassStatus_alters (inMemory : h.api = Cluster.api) (ref : ClassRef) (phase : ClassPhase)
    (pending : List Condition) (k : Cluster) : k.AltersResource ref.key Resource.AgreesButStatus
      (h.setClassStatus ref phase pending k).2 := by
  rw [setClassStatus_apply inMemory]
  exact Cluster.amend_induction (.refl .refl k) fun _ => Cluster.restate_alters

/-- A failure that was to be told was told, or nothing has happened. -/
theorem updateStatus_toldFailed (inMemory : h.api = Cluster.api) (pending : List Condition)
    (k : Cluster) : (h.updateStatus stream .failed pending k).2 = k ∨
      k.ToldFailed stream (h.updateStatus stream .failed pending k).2 := by
  rw [updateStatus_apply inMemory]
  refine Cluster.amend_induction (P := fun k' => k' = k ∨ k.ToldFailed stream k') (.inl rfl)
    fun k' written => .inr ?_
  obtain ⟨r, found, written⟩ := Option.bind_eq_some_iff.1 written
  obtain ⟨s, advanced, rfl⟩ := Option.map_eq_some_iff.1 written
  exact ⟨r, s, found, Status.phase_of_advance_some advanced, rfl⟩

/-- At most one annotation of the target is changed. -/
def AltersAnnotation (target : AnnotationTarget) (key : String) (k k' : Cluster) : Prop :=
  match target with
  | .definition stream => k.AltersResource stream.key (Resource.AgreesButAnnotation key) k'
  | .job space name => k.AltersJob ⟨space, name⟩ (Option.Rel (Job.AgreesButAnnotation key)) k'

theorem annotate_alters (inMemory : h.api = Cluster.api) (target : AnnotationTarget) (key : String)
    (value expected : Option String) (k : Cluster) :
    AltersAnnotation target key k (h.annotate target key value expected k).2 := by
  rw [annotate_apply inMemory]
  cases target with
  | definition stream =>
    refine Cluster.amend_induction (Cluster.AltersResource.refl .refl k) fun k' written => ?_
    obtain ⟨r, found, written⟩ := Option.bind_eq_some_iff.1 written
    obtain ⟨-, written⟩ := Option.ite_none_right_eq_some.1 written
    obtain rfl := Option.some.inj written
    exact Cluster.afterResource_alters found ⟨rfl, rfl, r.metadata.annotate_agreesBut⟩ _
  | job space name =>
    refine Cluster.amend_induction (Cluster.AltersJob.refl (optionRel_refl .refl) k) fun k' written => ?_
    obtain ⟨job, found, written⟩ := Option.bind_eq_some_iff.1 written
    obtain ⟨-, written⟩ := Option.ite_none_right_eq_some.1 written
    obtain rfl := Option.some.inj written
    refine Cluster.afterJob_alters ?_ _
    rw [show Table.get? ⟨space, name⟩ k.jobs = some job from found]
    exact .some ⟨rfl, rfl, job.metadata.annotate_agreesBut⟩

theorem stopJob_alters (inMemory : h.api = Cluster.api) (space name : String) (k : Cluster) :
    k.AltersJob ⟨space, name⟩ Job.Removed (h.stopJob space name k).2 := by
  rw [stopJob_apply inMemory]
  refine Cluster.amend_induction (.refl (fun _ => .kept) k) fun k' written => ?_
  obtain ⟨job, -, rfl⟩ := Option.map_eq_some_iff.1 written
  exact Cluster.afterDeletion_alters .removed _

/-- The start of a job creates it where there is none, or it is told in the status. What fails after the
job was prepared is told at most. -/
theorem startJob_alters (inMemory : h.api = Cluster.api) (d : Definition) (backfilling : Bool)
    (k : Cluster) :
    (k.AltersJob d.jobKey (Job.Created d.jobKey) (h.startJob d backfilling k).2 ∨
      k.AltersResource d.reference.key Resource.AgreesButStatus (h.startJob d backfilling k).2) ∧
    ∀ e, (h.startJob d backfilling k).1 = .error e → (h.startJob d backfilling k).2 = k ∨
      k.ToldFailed d.reference (h.startJob d backfilling k).2 := by
  have reads := prepareJob_reads inMemory backfilling (d := d) k
  cases result : (h.prepareJob d backfilling k).1 with
  | error e =>
    rw [startJob_of_fault result inMemory]
    cases configurationFault? e with
    | none => exact ⟨.inr (.refl .refl k), fun _ _ => .inl rfl⟩
    | some reason =>
      exact ⟨.inr (updateStatus_alters inMemory _ _ k), fun _ _ => updateStatus_toldFailed inMemory _ k⟩
  | ok job =>
    obtain ⟨name, space, -⟩ := prepareJob_yields backfilling k k job (Prod.ext result reads)
    have place : job.key = d.jobKey := congrArg₂ JobKey.mk space name
    have named : (⟨d.space, job.name⟩ : JobKey) = d.jobKey := congrArg (JobKey.mk d.space) name
    rw [startJob_of_prepared result inMemory, named]
    split
    · rw [refuseJob, Act.bind_snd fun _ => .throw _]
      exact ⟨.inr (updateStatus_alters inMemory _ _ k), fun _ _ => updateStatus_toldFailed inMemory _ k⟩
    · split
      · exact ⟨.inr (.refl .refl k), fun _ _ => .inl rfl⟩
      · rename_i free
        have free : Table.get? d.jobKey k.jobs = none := by
          rw [← named]
          exact Option.not_isSome_iff_eq_none.1 free
        refine ⟨.inl (Cluster.afterJob_alters ?_ _), fun _ failed => by cases failed⟩
        rw [free]
        exact .created place

end Handler

/-! ## Commands -/

namespace Command

/-- The resource that a command is about. -/
def resource? : Command → Option ResourceKey
  | startJob d _ => some d.reference.key
  | annotate (.definition stream) _ _ | unannotate (.definition stream) _ _
  | updateStatus stream _ _ => some stream.key
  | setClassStatus ref _ _ => some ref.key
  | stopJob _ _ | annotate (.job _ _) _ _ | unannotate (.job _ _) _ _ => none

/-- The job that a command is about. -/
def job? : Command → Option JobKey
  | startJob d _ => some d.jobKey
  | stopJob space name | annotate (.job space name) _ _ | unannotate (.job space name) _ _ =>
    some ⟨space, name⟩
  | annotate (.definition _) _ _ | unannotate (.definition _) _ _ | updateStatus _ _ _
  | setClassStatus _ _ _ => none

/-- What a command may change. -/
def Confined (k k' : Cluster) : Command → Prop
  | startJob d _ => k.AltersJob d.jobKey (Job.Created d.jobKey) k' ∨
    k.AltersResource d.reference.key Resource.AgreesButStatus k'
  | stopJob space name => k.AltersJob ⟨space, name⟩ Job.Removed k'
  | annotate target key _ | unannotate target key _ => Handler.AltersAnnotation target key k k'
  | updateStatus stream _ _ => k.AltersResource stream.key Resource.AgreesButStatus k'
  | setClassStatus ref _ _ => k.AltersResource ref.key Resource.AgreesButStatus k'

variable {k k' : Cluster} {command : Command}

/-- What is no target of a command is left as it is. -/
theorem Confined.spares (confined : command.Confined k k') :
    k.Spares command.resource? command.job? k' := by
  cases command with
  | startJob d backfilling =>
    rcases confined with job | resource
    · exact job.spares
    · exact resource.spares
  | stopJob space name => exact Cluster.AltersJob.spares confined
  | annotate target key value =>
    cases target with
    | definition stream => exact Cluster.AltersResource.spares confined
    | job space name => exact Cluster.AltersJob.spares confined
  | unannotate target key expected =>
    cases target with
    | definition stream => exact Cluster.AltersResource.spares confined
    | job space name => exact Cluster.AltersJob.spares confined
  | updateStatus stream phase conditions => exact Cluster.AltersResource.spares confined
  | setClassStatus ref phase conditions => exact Cluster.AltersResource.spares confined

theorem handle_confined {h : Handler Cluster} (inMemory : h.api = Cluster.api) (command : Command)
    (k : Cluster) : command.Confined k (h.handle command k).2 := by
  cases command with
  | startJob d backfilling => exact (Handler.startJob_alters inMemory d backfilling k).1
  | stopJob space name => exact Handler.stopJob_alters inMemory space name k
  | annotate target key value => exact Handler.annotate_alters inMemory target key _ _ k
  | unannotate target key expected => exact Handler.annotate_alters inMemory target key _ _ k
  | updateStatus stream phase conditions => exact Handler.updateStatus_alters inMemory phase _ k
  | setClassStatus ref phase conditions => exact Handler.setClassStatus_alters inMemory ref phase _ k

/-- A command that fails has changed nothing, but that a job was refused may have been told. -/
theorem handle_of_error {h : Handler Cluster} (inMemory : h.api = Cluster.api) {e : Failure}
    (failed : (h.handle command k).1 = .error e) : (h.handle command k).2 = k ∨
      ∃ d backfilling, command = .startJob d backfilling ∧
        k.ToldFailed d.reference (h.handle command k).2 := by
  cases command with
  | startJob d backfilling =>
    rcases (Handler.startJob_alters inMemory d backfilling k).2 e failed with same | told
    · exact .inl same
    · exact .inr ⟨d, backfilling, rfl, told⟩
  | stopJob space name =>
    rw [Handler.handle, Handler.stopJob_apply inMemory] at failed ⊢
    exact .inl (Cluster.amend_of_error failed)
  | annotate target key value =>
    rw [Handler.handle, Handler.annotate_apply inMemory] at failed ⊢
    exact .inl (Cluster.amend_of_error failed)
  | unannotate target key expected =>
    rw [Handler.handle, Handler.annotate_apply inMemory] at failed ⊢
    exact .inl (Cluster.amend_of_error failed)
  | updateStatus stream phase conditions =>
    rw [Handler.handle, Handler.updateStatus_apply inMemory] at failed ⊢
    exact .inl (Cluster.amend_of_error failed)
  | setClassStatus ref phase conditions =>
    rw [Handler.handle, Handler.setClassStatus_apply inMemory] at failed ⊢
    exact .inl (Cluster.amend_of_error failed)

end Command

/-- A command leaves everything but its target as it is and changes of its target what it is about. When
it fails nothing has changed, unless a job was refused: that may have been told in the status. -/
theorem commands_are_confined (classes : String → Option StreamClass) (now : String) (k : Cluster)
    (command : Command) :
    let outcome := (Handler.mk Cluster.api classes now).handle command k
    k.Spares command.resource? command.job? outcome.2 ∧ command.Confined k outcome.2 ∧
    ∀ e, outcome.1 = .error e → outcome.2 = k ∨
      ∃ d backfilling, command = .startJob d backfilling ∧ k.ToldFailed d.reference outcome.2 :=
  have confined := Command.handle_confined (h := ⟨Cluster.api, classes, now⟩) rfl command k
  ⟨confined.spares, confined, fun _ failed => Command.handle_of_error rfl failed⟩

section Orders

/-- The orders have no job, and one cannot be created. -/
def refusingCluster : Cluster :=
  { Orders.cluster (Orders.definition "1" none) [] with failing := ["send_job"] }

def startOrders : Command := .startJob (Orders.definition "1" none) false

def ordersHandler : Handler Cluster :=
  ⟨Cluster.api, fun _ => some Orders.streamClass, "2024-01-01T00:00:00Z"⟩

/-- The start of the orders is refused, and the status tells it; the template is left alone. -/
theorem orders_are_told_failed :
    (ordersHandler.handle startOrders refusingCluster).1 = .error Cluster.injected ∧
    refusingCluster.ToldFailed (Orders.definition "1" none).reference
      (ordersHandler.handle startOrders refusingCluster).2 ∧
    Table.get? ⟨"streamingjobtemplates", "streams", "plain"⟩
      (ordersHandler.handle startOrders refusingCluster).2.resources = some Orders.template := by
  have refused : (ordersHandler.handle startOrders refusingCluster).1 = .error Cluster.injected := by
    decide +kernel
  obtain ⟨spares, -, failed⟩ := commands_are_confined (fun _ => some Orders.streamClass)
    "2024-01-01T00:00:00Z" refusingCluster startOrders
  refine ⟨refused, ?_, spares.resources _ (by decide)⟩
  rcases failed _ refused with same | ⟨d, backfilling, start, told⟩
  · have written : (ordersHandler.handle startOrders refusingCluster).2.calls ≠ [] := by decide +kernel
    exact absurd (congrArg Cluster.calls same) written
  · cases start
    exact told

end Orders

end StreamOperator
