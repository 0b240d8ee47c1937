import StreamOperator.Decision.Stream
import StreamOperator.Proofs.Handler.Repetition

/-!
# What commands leave of a stream

The definition of a stream is stored under its own reference, and the job that runs it under its name. A
status leaves the state of a definition (`Definition.Retold`), and the same is decided on afterwards; to
take back a request to reload leaves it without a state (`Handler.dropReload_apply`). What can become of
the start of a job, and of a job that is marked, is what later decisions on the definition depend on.
-/

set_option autoImplicit false

namespace StreamOperator

variable {d d' : Definition} {k k' : Cluster} {h : Handler Cluster}

/-- The definition is stored under its own reference. -/
def Definition.StoredIn (d : Definition) (k : Cluster) : Prop :=
  Table.get? d.reference.key k.resources = some d.resource

/-- The job under the name of a definition. -/
def Cluster.jobOf (k : Cluster) (d : Definition) : Option Job := Table.get? d.jobKey k.jobs

theorem Handler.handleAll_singleton {σ : Type} (h : Handler σ) (command : Command) (k : σ) :
    (h.handleAll [command] k).2 = (h.handle command k).2 := Act.bind_snd (fun _ => .pure _) _ k

/-! ## Flags -/

namespace Definition

/-- Nothing is asked for where there is no state. -/
theorem flags_of_stateless (stateless : d.view.state? = none) :
    d.isSuspended = false ∧ d.isReloadRequested = false ∧ d.isCrashLoop = false := by
  simp [isSuspended, StreamView.isSuspended, isReloadRequested, StreamView.isReloadRequested,
    isCrashLoop, StreamView.isCrashLoop, stateless]

/-- Nothing else is asked for where a reload is. -/
theorem flags_of_requested (requested : d.isReloadRequested = true) :
    d.isSuspended = false ∧ d.isCrashLoop = false := by
  have state : d.view.state? = some .reloadRequested := beq_iff_eq.1 requested
  simp [isSuspended, StreamView.isSuspended, isCrashLoop, StreamView.isCrashLoop, state]

end Definition

/-! ## Definitions that were written -/

/-- The definition has been written in the meantime, but its state is the same. -/
structure Definition.Retold (d d' : Definition) : Prop extends d.Rewritten d' where
  state : d'.resource.metadata.state? = d.resource.metadata.state?

namespace Definition.Retold

theorem refl (d : Definition) : d.Retold d := ⟨.refl d, rfl⟩

theorem of_restated (d : Definition) (status : Json) (version : String) :
    d.Retold ⟨Cluster.restated d.resource status version, d.coordinates⟩ where
  coordinates := rfl
  resource := d.resource.rewritten_restated status version
  state := rfl

variable (retold : d.Retold d')

include retold

theorem isSuspended : d'.isSuspended = d.isSuspended :=
  congrArg (· == some StreamState.suspended) retold.state

theorem isReloadRequested : d'.isReloadRequested = d.isReloadRequested :=
  congrArg (· == some StreamState.reloadRequested) retold.state

theorem isCrashLoop : d'.isCrashLoop = d.isCrashLoop :=
  congrArg (· == some StreamState.crashLoop) retold.state

/-- The same is decided on for a definition that has the same state and a job. -/
theorem onModified_some (job : Job) : d'.onModified (some job) = d.onModified (some job) := by
  simp only [onModified, retold.isSuspended, retold.isReloadRequested, Command.dropReloadRequest,
    retold.toRewritten.reference, retold.toRewritten.checksum]

/-- The same is done for a definition that has the same state. -/
theorem handleAll_onModified {σ : Type} (h : Handler σ) (found : Option Job) :
    h.handleAll (d'.onModified found) = h.handleAll (d.onModified found) := by
  cases found with
  | none =>
    have start : ∀ backfilling, h.handle (.startJob d' backfilling) = h.handle (.startJob d backfilling) :=
      fun backfilling => retold.toRewritten.startJob h backfilling
    simp only [onModified, retold.isSuspended, retold.isReloadRequested, retold.isCrashLoop,
      Command.crashLoopStatus, Command.dropReloadRequest, retold.toRewritten.reference]
    split
    · rfl
    · split
      · rfl
      · split <;> simp only [Handler.handleAll, start]
  | some job => rw [retold.onModified_some job]

end Definition.Retold

/-! ## What single commands leave -/

/-- A definition whose status may have been written is stored as before, or with the status. -/
theorem Cluster.Edits.exists_retold (stored : d.StoredIn k)
    (edits : Cluster.Edits d.reference.key
      (fun r r' => ∃ status version, r' = Cluster.restated r status version) k k') :
    ∃ d', d.Retold d' ∧ d'.StoredIn k' := by
  rcases edits.target stored with kept | ⟨_, written, status, version, rfl⟩
  · exact ⟨d, .refl d, kept⟩
  · exact ⟨_, .of_restated d status version, written⟩

/-- A job that was built for a definition has its checksum. -/
theorem Job.checksum?_build {template : StreamTemplate} {v : StreamView} {c : Coordinates}
    {backfilling : Bool} {fields : List String} {job : Job}
    (built : Job.build template v c backfilling fields = .ok job) : job.checksum? = some v.checksum := by
  unfold Job.build at built
  split at built
  · cases built
  · obtain rfl := Except.ok.inj built
    have keys : Key.checksum ≠ Key.apiGroup ∧ Key.checksum ≠ Key.apiVersion ∧
        Key.checksum ≠ Key.apiPlural := by decide
    simp [Job.checksum?, Metadata.annotation?, buildAnnotations, Dictionary.get?_insert, keys]

/-- A prepared job was built for its definition. -/
theorem Handler.exists_build {backfilling : Bool} {job : Job}
    (prepared : h.prepareJob d backfilling k = (.ok job, k')) :
    ∃ template fields, Job.build template d.view d.coordinates backfilling fields = .ok job := by
  have built : (h.prepareJob d backfilling).Yields fun job =>
      ∃ template fields, Job.build template d.view d.coordinates backfilling fields = .ok job := by
    unfold prepareJob
    split
    · exact .throw _
    · split
      · exact .throw _
      · exact .bind fun template => .ofExcept fun _ built => ⟨template, _, built⟩
  exact built _ _ _ prepared

/-- The start of a job creates one with the checksum of its definition, or it is told in the status. -/
theorem Handler.startJob_outcome (inMemory : h.api = Cluster.api) (d : Definition)
    (backfilling : Bool) (k : Cluster) :
    (∃ job call, job.checksum? = some d.checksum ∧
      (h.startJob d backfilling k).2 = k.afterJob d.jobKey job call) ∨
    Cluster.Edits d.reference.key
      (fun r r' => ∃ status version, r' = Cluster.restated r status version) k
      (h.startJob d backfilling k).2 := by
  have reads := prepareJob_reads inMemory backfilling (d := d) k
  cases result : (h.prepareJob d backfilling k).1 with
  | error e =>
    rw [startJob_of_fault result inMemory]
    cases configurationFault? e with
    | none => exact .inr (.refl k)
    | some reason => exact .inr (updateStatus_edits inMemory _ _ k)
  | ok job =>
    obtain ⟨template, fields, built⟩ := exists_build (Prod.ext result reads)
    obtain ⟨name, -, -⟩ := Job.build_ok built
    rw [startJob_of_prepared result inMemory]
    split
    · rw [refuseJob, Act.bind_snd fun _ => .throw _]
      exact .inr (updateStatus_edits inMemory _ _ k)
    · split
      · exact .inr (.refl k)
      · refine .inl ⟨job, "send_job " ++ d.space ++ "/" ++ job.name, Job.checksum?_build built, ?_⟩
        have key : (⟨d.space, job.name⟩ : JobKey) = d.jobKey := by rw [name]; rfl
        rw [key]

/-- To mark a job leaves everything but jobs, and of each job what decisions on its definition look at. -/
theorem Handler.markJob_outcome (inMemory : h.api = Cluster.api) (job : Job) (state : StreamState)
    (k : Cluster) : (h.handle (.markJob job state) k).2.resources = k.resources ∧
      (h.handle (.markJob job state) k).2.failing = k.failing ∧
      ∀ d found, k.jobOf d = some found → ∃ found',
        (h.handle (.markJob job state) k).2.jobOf d = some found' ∧
        found'.checksum? = found.checksum? ∧ found'.space = found.space ∧ found'.name = found.name := by
  rw [Command.markJob, handle, annotate_apply inMemory]
  rcases Cluster.amend_snd _ _ (reannotate (.job job.space job.name) Key.state (some state.text) none) k
    with same | written
  · rw [same]
    exact ⟨rfl, rfl, fun d found stored => ⟨found, stored, rfl, rfl, rfl⟩⟩
  · obtain ⟨marked, target, written⟩ := Option.bind_eq_some_iff.1 written
    obtain ⟨-, written⟩ := Option.ite_none_right_eq_some.1 written
    rw [← Option.some.inj written]
    refine ⟨rfl, rfl, fun d found stored => ?_⟩
    by_cases own : d.jobKey = ⟨job.space, job.name⟩
    · rw [Cluster.jobOf, own] at stored ⊢
      obtain rfl := Option.some.inj (target.symm.trans stored)
      refine ⟨_, Cluster.afterJob_target, ?_, rfl,
        Metadata.nameAny_annotate marked.metadata Key.state (some state.text)⟩
      have other : Key.checksum ≠ Key.state := by decide
      exact Metadata.annotation?_annotate_of_ne marked.metadata other (some state.text)
    · refine ⟨found, ?_, rfl, rfl, rfl⟩
      rw [Cluster.jobOf, Cluster.afterJob, Table.get?_set_of_ne own]
      exact stored

/-- The cluster after the state of a definition was removed. -/
def Cluster.withoutState (k : Cluster) (d : Definition) : Cluster :=
  k.afterResource d.reference.key
    { d.resource with metadata := d.resource.metadata.annotate Key.state none }
    (annotateCall d.coordinates d.space d.id Key.state none)

/-- What is stored then is the definition without a state. -/
theorem Cluster.exists_stateless (k : Cluster) (d : Definition) : ∃ d', d.Rewritten d' ∧
    d'.StoredIn (k.withoutState d) ∧ d'.resource.metadata.annotation? Key.state = none := by
  refine ⟨⟨annotated d.resource Key.state none k.nextVersion, d.coordinates⟩,
    ⟨rfl, d.resource.rewritten_annotated Key.state none k.nextVersion⟩, afterResource_target, ?_⟩
  show (d.resource.metadata.annotate Key.state none).annotation? Key.state = none
  exact Metadata.annotation?_annotate_self _ _ _

/-- Without the annotation there is no state. -/
theorem Metadata.state?_of_unannotated {m : Metadata} (unannotated : m.annotation? Key.state = none) :
    m.state? = none := by
  rw [state?, unannotated]
  rfl

/-- To take back a request to reload fails, or it removes the state of the definition. -/
theorem Handler.dropReload_apply (stored : d.StoredIn k) (requested : d.isReloadRequested = true)
    (inMemory : h.api = Cluster.api) : h.handle (.dropReloadRequest d) k =
      if k.failing.contains "get_custom_resource" || k.failing.contains "annotate_resource" then
        (.error Cluster.injected, k)
      else (.ok (), k.withoutState d) := by
  have annotation : d.resource.metadata.annotation? Key.state
      = some StreamState.reloadRequested.text := by
    have state : (d.resource.metadata.annotation? Key.state).bind StreamState.ofText?
        = some .reloadRequested := beq_iff_eq.1 requested
    obtain ⟨text, found, read⟩ := Option.bind_eq_some_iff.1 state
    rw [found, StreamState.text_of_ofText? read]
  have found : k.resource? d.reference.coordinates d.reference.space d.reference.name
      = some d.resource := stored
  have written : reannotate (.definition d.reference) Key.state none
      (some StreamState.reloadRequested.text) k = some (k.withoutState d) := by
    rw [reannotate, found, Option.bind_some, if_pos (by simp [shouldAnnotate, annotation])]
    rfl
  rw [Command.dropReloadRequest, handle, annotate_apply inMemory, Cluster.amend, written, readingOf,
    writingOf]
  cases k.failing.contains "get_custom_resource" <;> rfl

/-- The command leaves the state of a definition that was written in the meantime. -/
def Command.SparesState (command : Command) (d : Definition) : Prop :=
  ∀ (h : Handler Cluster) (k : Cluster) (d' : Definition), h.api = Cluster.api → d.Rewritten d' →
    d'.StoredIn k → ∃ d'', d'.Retold d'' ∧ d''.StoredIn (h.handle command k).2

theorem Command.startJob_sparesState (d : Definition) (backfilling : Bool) :
    (Command.startJob d backfilling).SparesState d := by
  intro h k d' inMemory rewritten stored
  have same : h.startJob d backfilling = h.startJob d' backfilling :=
    (rewritten.startJob h backfilling).symm
  rw [Handler.handle, same]
  rcases Handler.startJob_outcome inMemory d' backfilling k with ⟨job, call, -, created⟩ | edits
  · rw [created]
    exact ⟨d', .refl d', stored⟩
  · exact edits.exists_retold stored

theorem Command.markJob_sparesState (d : Definition) (job : Job) (state : StreamState) :
    (Command.markJob job state).SparesState d := by
  intro h k d' inMemory rewritten stored
  obtain ⟨resources, -, -⟩ := Handler.markJob_outcome inMemory job state k
  exact ⟨d', .refl d', (congrArg (Table.get? d'.reference.key) resources).trans stored⟩

/-! ## Resources that are left alone -/

/-- The command writes no resource but the one with a key. -/
def Command.WritesOnly (key : ResourceKey) (command : Command) : Prop :=
  ∀ (h : Handler Cluster) (k : Cluster) (other : ResourceKey), h.api = Cluster.api → other ≠ key →
    Table.get? other (h.handle command k).2.resources = Table.get? other k.resources

theorem Command.writesOnly_startJob (d : Definition) (backfilling : Bool) :
    (Command.startJob d backfilling).WritesOnly d.reference.key := by
  intro h k other inMemory differ
  rcases Handler.startJob_outcome inMemory d backfilling k with ⟨job, call, -, created⟩ | edits
  · rw [Handler.handle, created]
    rfl
  · exact edits.elsewhere differ

theorem Command.writesOnly_stop (key : ResourceKey) (job : Job) : (Command.stop job).WritesOnly key := by
  intro h k other inMemory _
  rw [Command.stop, Handler.handle, Handler.stopJob_apply inMemory]
  rcases Cluster.amend_snd "delete_job" "delete_job" (fun k => (k.job? job.space job.name).map fun _ =>
      k.afterDeletion ⟨job.space, job.name⟩ ("delete_job " ++ job.space ++ "/" ++ job.name)) k with
    same | deleted
  · rw [same]
  · obtain ⟨_, -, deleted⟩ := Option.map_eq_some_iff.1 deleted
    rw [← deleted]
    rfl

theorem Command.writesOnly_markJob (key : ResourceKey) (job : Job) (state : StreamState) :
    (Command.markJob job state).WritesOnly key := by
  intro h k other inMemory _
  rw [(Handler.markJob_outcome inMemory job state k).1]

theorem Command.writesOnly_updateStatus (stream : StreamRef) (phase : StreamPhase)
    (pending : List Condition) : (Command.updateStatus stream phase pending).WritesOnly stream.key :=
  fun _ k _ inMemory differ => (Handler.updateStatus_edits inMemory phase pending k).elsewhere differ

theorem Command.writesOnly_dropReloadRequest (d : Definition) :
    (Command.dropReloadRequest d).WritesOnly d.reference.key :=
  fun _ k _ inMemory differ => (Handler.annotate_edits inMemory _ _ _ k).elsewhere differ

/-- What is decided on an event of a definition writes no resource but the definition. -/
theorem Definition.writesOnly_of_mem_react {type : EventType} {found : Option Job} :
    ∀ command ∈ d.react type found, command.WritesOnly d.reference.key := by
  have status : ∀ phase, (Command.enterPhase d.reference phase).WritesOnly d.reference.key :=
    fun _ => Command.writesOnly_updateStatus _ _ _
  have start := Command.writesOnly_startJob d
  have stop := Command.writesOnly_stop d.reference.key
  have mark := Command.writesOnly_markJob d.reference.key
  have drop := Command.writesOnly_dropReloadRequest d
  cases type with
  | deleted => exact List.forall_mem_nil _
  | added =>
    cases found with
    | none =>
      simp only [react, onAdded]
      split
      · exact List.forall_mem_singleton.2 (status _)
      · exact List.forall_mem_singleton.2 (start _)
    | some job =>
      simp only [react, onAdded]
      split
      · exact List.forall_mem_singleton.2 (status _)
      · split
        · exact List.forall_mem_singleton.2 (stop job)
        · exact List.forall_mem_singleton.2 (status _)
  | modified =>
    cases found with
    | none =>
      simp only [react, onModified]
      split
      · exact List.forall_mem_singleton.2 (Command.writesOnly_updateStatus _ _ _)
      · split
        · exact List.forall_mem_singleton.2 (status _)
        · split
          · exact List.forall_mem_cons.2 ⟨drop, List.forall_mem_singleton.2 (start _)⟩
          · exact List.forall_mem_singleton.2 (start _)
    | some job =>
      simp only [react, onModified]
      split
      · exact List.forall_mem_singleton.2 (stop job)
      · split
        · exact List.forall_mem_cons.2 ⟨drop, List.forall_mem_singleton.2 (mark job _)⟩
        · split
          · exact List.forall_mem_singleton.2 (mark job _)
          · exact List.forall_mem_nil _

end StreamOperator
