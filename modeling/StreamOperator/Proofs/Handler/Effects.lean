import StreamOperator.Handler
import StreamOperator.Proofs.Cluster.Effects

/-!
# What commands do to a cluster

For the cluster in memory: a status or an annotation of a definition rewrites the definition and
nothing else (`updateStatus_edits`, `annotate_edits`), and the ways in which a command can change the
jobs are those of `JobEffect` (`handle_jobEffect`). Only the start of a job creates one, under a free
name and with the label it was asked for, and only a stop removes one.
-/

set_option autoImplicit false

namespace StreamOperator

/-- The key of a definition's resource. -/
def StreamRef.key (ref : StreamRef) : ResourceKey := ⟨ref.coordinates.plural, ref.space, ref.name⟩

/-- The key of a stream's job. -/
def Definition.jobKey (d : Definition) : JobKey := ⟨d.space, d.id⟩

/-- The key a job is addressed by. -/
def Job.key (job : Job) : JobKey := ⟨job.space, job.name⟩

/-- The ways in which a command can change the jobs. -/
inductive JobEffect (k k' : Cluster) : Command → Prop where
  | kept {command : Command} (same : k'.jobs = k.jobs) : JobEffect k k' command
  | marked {command : Command} {key : JobKey} {job job' : Job}
      (found : Table.get? key k.jobs = some job) (place : job'.key = job.key)
      (written : k'.jobs = Table.set key job' k.jobs) : JobEffect k k' command
  | created {d : Definition} {backfilling : Bool} {job : Job}
      (free : Table.get? d.jobKey k.jobs = none) (place : job.key = d.jobKey)
      (label : job.isBackfilling = backfilling)
      (written : k'.jobs = Table.set d.jobKey job k.jobs) :
      JobEffect k k' (.startJob d backfilling)
  | removed {space name : String} (found : (Table.get? ⟨space, name⟩ k.jobs).isSome = true)
      (written : k'.jobs = Table.erase ⟨space, name⟩ k.jobs) : JobEffect k k' (.stopJob space name)

/-- The ways in which a command can change the job under a key. -/
inductive JobChange (key : JobKey) : Command → Option Job → Option Job → Prop where
  | kept {command : Command} {entry : Option Job} : JobChange key command entry entry
  | marked {command : Command} {job job' : Job} (place : job'.key = job.key) :
      JobChange key command (some job) (some job')
  | created {d : Definition} {job : Job} (own : key = d.jobKey) (place : job.key = key) :
      JobChange key (.startJob d job.isBackfilling) none (some job)
  | removed {space name : String} {job : Job} (own : key = ⟨space, name⟩) :
      JobChange key (.stopJob space name) (some job) none

/-- An effect on the jobs, seen from one key. -/
theorem JobEffect.change {k k' : Cluster} {command : Command} (effect : JobEffect k k' command)
    (key : JobKey) :
    JobChange key command (Table.get? key k.jobs) (Table.get? key k'.jobs) := by
  cases effect with
  | kept same =>
    rw [same]
    exact .kept
  | marked found place written =>
    rw [written, Table.get?_set]
    split
    · rename_i own
      rw [own, found]
      exact .marked place
    · exact .kept
  | created free place label written =>
    rw [written, Table.get?_set]
    split
    · rename_i own
      rw [own, free, ← label]
      exact .created rfl place
    · exact .kept
  | removed found written =>
    rw [written, Table.get?_erase]
    split
    · rename_i own
      obtain ⟨job, found⟩ := Option.isSome_iff_exists.1 found
      rw [own, found]
      exact .removed rfl
    · exact .kept

/-- Only a stop removes a job, and it is the one that the stop names. -/
theorem JobEffect.of_removed {k k' : Cluster} {command : Command} {key : JobKey}
    (effect : JobEffect k k' command) (before : Table.contains key k.jobs = true)
    (after : Table.contains key k'.jobs = false) :
    ∃ space name, command = .stopJob space name ∧ key = ⟨space, name⟩ := by
  have change := effect.change key
  obtain ⟨job, before⟩ := Option.isSome_iff_exists.1 before
  have after : Table.get? key k'.jobs = none := by simpa [Table.contains] using after
  rw [before, after] at change
  cases change with
  | removed own => exact ⟨_, _, rfl, own⟩

/-- Only a start creates a job, and the job has the label that the start names. -/
theorem JobEffect.of_created {k k' : Cluster} {command : Command} {key : JobKey} {job : Job}
    (effect : JobEffect k k' command) (before : Table.get? key k.jobs = none)
    (after : Table.get? key k'.jobs = some job) :
    ∃ d, command = .startJob d job.isBackfilling ∧ key = d.jobKey := by
  have change := effect.change key
  rw [before, after] at change
  cases change with
  | created own place => exact ⟨_, rfl, own⟩

/-! ## Jobs that are built -/

theorem Metadata.nameAny_annotate (m : Metadata) (key : String) (value : Option String) :
    (m.annotate key value).nameAny = m.nameAny := by
  cases value <;> rfl

/-- A built job stands under the id of its stream and has the label it was asked for. -/
theorem Job.build_ok {template : StreamTemplate} {v : StreamView} {c : Coordinates}
    {backfilling : Bool} {fields : List String} {job : Job}
    (built : Job.build template v c backfilling fields = .ok job) :
    job.name = v.id ∧ job.space = v.space ∧ job.isBackfilling = backfilling := by
  unfold Job.build at built
  split at built
  · cases built
  · obtain rfl := Except.ok.inj built
    refine ⟨rfl, rfl, ?_⟩
    unfold Job.isBackfilling Metadata.label?
    simp only [Option.bind_some, buildLabels, Dictionary.get?_insert_self]
    cases backfilling <;> decide

namespace Handler

variable {h : Handler Cluster} {k k' : Cluster} {d : Definition} {stream : StreamRef}

/-! ## Statuses and annotations -/

theorem prepareStreamStatus_reads (inMemory : h.api = Cluster.api) (phase : StreamPhase)
    (pending : List Condition) : (h.prepareStreamStatus stream phase pending).Reads := by
  unfold prepareStreamStatus
  rw [inMemory]
  refine .bind Cluster.getResource_reads fun found => ?_
  cases found <;> exact .pure _

/-- A status rewrites the data of its definition and nothing else. -/
theorem updateStatus_edits (inMemory : h.api = Cluster.api) (phase : StreamPhase)
    (pending : List Condition) (k : Cluster) :
    Cluster.Edits stream.key (fun r r' => ∃ status version, r' = Cluster.restated r status version)
      k (h.updateStatus stream phase pending k).2 := by
  unfold updateStatus
  rcases (prepareStreamStatus_reads inMemory phase pending).bind_cases _ k with
    ⟨e, failed⟩ | ⟨prepared, same⟩
  · rw [failed]
    exact .refl k
  · rw [same]
    cases prepared with
    | none => exact .refl k
    | some status =>
      simp only [inMemory]
      exact (Cluster.patchStatus_edits status k).mono
        fun r r' ⟨version, written⟩ => ⟨status, version, written⟩

theorem readAnnotation_reads (inMemory : h.api = Cluster.api) (target : AnnotationTarget)
    (key : String) : Act.Reads ( h.readAnnotation target key) := by
  cases target with
  | definition stream =>
    simp only [ readAnnotation, inMemory]
    exact .bind Cluster.getResource_reads fun _ => .pure _
  | job space name =>
    simp only [ readAnnotation, inMemory]
    exact .bind Cluster.getJob_reads fun _ => .pure _

/-- The write of an annotation changes what the operation of the cluster changes. -/
theorem writeAnnotation_snd (inMemory : h.api = Cluster.api) (target : AnnotationTarget)
    (key : String) (value : Option String) (k : Cluster) :
    (h.writeAnnotation target key value k).2 = match target with
      | .definition stream =>
        (Cluster.annotateResource stream.coordinates stream.space stream.name key value k).2
      | .job space name => (Cluster.annotateJob space name key value k).2 := by
  unfold writeAnnotation
  rw [inMemory, Act.bind_snd]
  · cases target <;> rfl
  · intro result
    split
    · exact .pure _
    · split
      · exact .pure _
      · exact .throw _

/-- An annotation rewrites the annotations of its definition and nothing else. -/
theorem annotate_edits (inMemory : h.api = Cluster.api) (key : String)
    (value expected : Option String) (k : Cluster) :
    Cluster.Edits stream.key (fun r r' => ∃ version, r' = Cluster.annotated r key value version)
      k (h.annotate (.definition stream) key value expected k).2 := by
  unfold annotate
  rcases (readAnnotation_reads inMemory (.definition stream) key).bind_cases _ k with
    ⟨e, failed⟩ | ⟨found, same⟩
  · rw [failed]
    exact .refl k
  · rw [same]
    split
    · rw [writeAnnotation_snd inMemory]
      exact Cluster.annotateResource_edits key value k
    · exact .refl k

theorem annotate_jobEffect (inMemory : h.api = Cluster.api) (target : AnnotationTarget)
    (key : String) (value expected : Option String) (k : Cluster) (command : Command) :
    JobEffect k (h.annotate target key value expected k).2 command := by
  cases target with
  | definition stream => exact .kept (annotate_edits inMemory key value expected k).jobs
  | job space name =>
    unfold annotate
    rcases (readAnnotation_reads inMemory (.job space name) key).bind_cases _ k with
      ⟨e, failed⟩ | ⟨found, same⟩
    · rw [failed]
      exact .kept rfl
    · rw [same]
      split
      · rw [writeAnnotation_snd inMemory]
        rcases (Cluster.annotateJob_cases space name key value k).2.2 with
          same | ⟨version, job, found, written⟩
        · exact .kept same
        · refine .marked found ?_ written
          simp only [Job.key, Job.space, Job.name, Cluster.versionedJob, JobKey.mk.injEq]
          exact ⟨by cases value <;> rfl, Metadata.nameAny_annotate job.metadata key value⟩
      · exact .kept rfl

/-! ## Jobs -/

theorem findTemplate_reads (inMemory : h.api = Cluster.api) (ref : TemplateRef) :
    (h.findTemplate d ref).Reads := by
  unfold findTemplate
  rw [inMemory]
  refine .bind Cluster.getResource_reads fun found => ?_
  cases found with
  | none => exact .throw _
  | some resource => exact .ofExcept _

theorem prepareJob_reads (inMemory : h.api = Cluster.api) (backfilling : Bool) :
    (h.prepareJob d backfilling).Reads := by
  unfold prepareJob
  split
  · exact .throw _
  · split
    · exact .throw _
    · exact .bind (findTemplate_reads inMemory _) fun _ => .ofExcept _

/-- A prepared job is one that was built for the definition. -/
theorem prepareJob_yields (backfilling : Bool) : (h.prepareJob d backfilling).Yields fun job =>
    job.name = d.id ∧ job.space = d.space ∧ job.isBackfilling = backfilling := by
  unfold prepareJob
  split
  · exact .throw _
  · split
    · exact .throw _
    · exact .bind fun _ => .ofExcept fun _ built => Job.build_ok built

/-- A job that cannot be prepared is written to the status at most. -/
theorem startJob_jobs_of_unprepared (inMemory : h.api = Cluster.api) {backfilling : Bool}
    {e : Failure} (unprepared : h.prepareJob d backfilling k = (.error e, k)) :
    (h.startJob d backfilling k).2.jobs = k.jobs := by
  unfold startJob
  rw [Act.bind_ok (Act.attempt_apply _ k), unprepared]
  cases fault : configurationFault? e with
  | none =>
    simp only [fault]
    rfl
  | some reason =>
    simp only [fault]
    exact (updateStatus_edits inMemory _ _ k).jobs

/-- Whatever a failure to create the job is written to, the jobs stay. -/
theorem startJob_jobs_of_unsent (inMemory : h.api = Cluster.api) {backfilling : Bool} {job : Job}
    {e : Failure} (prepared : h.prepareJob d backfilling k = (.ok job, k))
    (unsent : Cluster.api.sendJob job d.space k = (.error e, k)) :
    (h.startJob d backfilling k).2.jobs = k.jobs := by
  unfold startJob
  rw [Act.bind_ok (Act.attempt_apply _ k), prepared]
  simp only
  rw [inMemory, Act.bind_ok (Act.attempt_apply _ k), unsent]
  simp only
  split
  · rfl
  · rw [Act.bind_snd fun _ => .throw e]
    exact (updateStatus_edits inMemory _ _ k).jobs

theorem startJob_of_sent (inMemory : h.api = Cluster.api) {backfilling : Bool} {job : Job}
    (prepared : h.prepareJob d backfilling k = (.ok job, k))
    (sent : Cluster.api.sendJob job d.space k = (.ok (), k')) :
    h.startJob d backfilling k = (.ok (), k') := by
  unfold startJob
  rw [Act.bind_ok (Act.attempt_apply _ k), prepared]
  simp only
  rw [inMemory, Act.bind_ok (Act.attempt_apply _ k), sent]
  rfl

theorem startJob_jobEffect (inMemory : h.api = Cluster.api) (backfilling : Bool) (k : Cluster) :
    JobEffect k (h.startJob d backfilling k).2 (.startJob d backfilling) := by
  have reads : (h.prepareJob d backfilling k).2 = k := prepareJob_reads inMemory backfilling k
  cases result : (h.prepareJob d backfilling k).1 with
  | error e => exact .kept (startJob_jobs_of_unprepared inMemory (Prod.ext result reads))
  | ok job =>
    have prepared : h.prepareJob d backfilling k = (.ok job, k) := Prod.ext result reads
    obtain ⟨name, space, label⟩ := prepareJob_yields backfilling _ _ _ prepared
    rcases Cluster.sendJob_cases job d.space k with
      ⟨e, unsent⟩ | ⟨version, k', sent, free, -, -, written⟩
    · exact .kept (startJob_jobs_of_unsent inMemory prepared unsent)
    · have key : (⟨d.space, job.name⟩ : JobKey) = d.jobKey := by rw [name]; rfl
      have place : (Cluster.versionedJob job version).key = d.jobKey := by
        rw [← key, ← space]
        rfl
      have label : (Cluster.versionedJob job version).isBackfilling = backfilling := label
      rw [startJob_of_sent inMemory prepared sent]
      rw [key] at written
      exact .created (key ▸ free) place label written

theorem stopJob_snd (inMemory : h.api = Cluster.api) (space name : String) (k : Cluster) :
    (h.stopJob space name k).2 = (Cluster.deleteJob space name k).2 := by
  unfold stopJob
  rw [inMemory, Act.bind_snd]
  · rfl
  · intro result
    split
    · exact .pure _
    · split
      · exact .pure _
      · exact .throw _

theorem stopJob_jobEffect (inMemory : h.api = Cluster.api) (space name : String) (k : Cluster) :
    JobEffect k (h.stopJob space name k).2 (.stopJob space name) := by
  rw [stopJob_snd inMemory]
  rcases Cluster.deleteJob_cases space name k with ⟨e, failed⟩ | ⟨k', deleted, found, -, -, written⟩
  · rw [failed]
    exact .kept rfl
  · rw [deleted]
    exact .removed found written

theorem prepareClassStatus_reads (inMemory : h.api = Cluster.api) (c : ClassRef) (phase : ClassPhase)
    (pending : List Condition) : (h.prepareClassStatus c phase pending).Reads := by
  unfold prepareClassStatus
  rw [inMemory]
  refine .bind Cluster.getResource_reads fun found => ?_
  cases found <;> exact .pure _

theorem setClassStatus_jobs (inMemory : h.api = Cluster.api) (c : ClassRef) (phase : ClassPhase)
    (pending : List Condition) (k : Cluster) : (h.setClassStatus c phase pending k).2.jobs = k.jobs := by
  unfold setClassStatus
  rcases (prepareClassStatus_reads inMemory c phase pending).bind_cases _ k with
    ⟨e, failed⟩ | ⟨prepared, same⟩
  · rw [failed]
  · rw [same]
    cases prepared with
    | none => rfl
    | some status =>
      simp only [commitClassStatus, inMemory]
      exact (Cluster.patchStatus_edits status k).jobs

/-- What a command can do to the jobs. -/
theorem handle_jobEffect (inMemory : h.api = Cluster.api) (command : Command) (k : Cluster) :
    JobEffect k (h.handle command k).2 command := by
  cases command with
  | startJob d backfilling => exact startJob_jobEffect inMemory backfilling k
  | stopJob space name => exact stopJob_jobEffect inMemory space name k
  | annotate target key value => exact annotate_jobEffect inMemory target key (some value) none k _
  | unannotate target key expected => exact annotate_jobEffect inMemory target key none expected k _
  | updateStatus stream phase conditions =>
    exact .kept (updateStatus_edits inMemory phase conditions k).jobs
  | setClassStatus c phase conditions =>
    exact .kept (setClassStatus_jobs inMemory c phase conditions k)

end Handler

end StreamOperator
