import StreamOperator.Proofs.Decision.StartStop

/-!
# Owners of jobs

A job records the definition it was started for. The operator builds a job with the definition as its
owner and under the definition's name (`Job.owner?_build`), and whatever it does afterwards keeps what is
recorded: where every job with an owner stands under the owner's name, it does so after any command of
a reconciler (`Handler.handle_owned`). Which job a command is for is a matter of names alone
(`Command.Concerns`): kinds play no part.
-/

set_option autoImplicit false

namespace StreamOperator

/-- The key of the job that a definition is to have. -/
def StreamRef.jobKey (ref : StreamRef) : JobKey := ⟨ref.space, ref.name⟩

/-- The job stands under its own name, which is its owner's too if it records one. -/
structure Job.Belongs (key : JobKey) (job : Job) : Prop where
  placed : job.key = key
  owned : ∀ ref, job.owner? = some ref → ref.jobKey = key

/-- Every job that records an owner stands under the name of its owner. -/
def Cluster.Owned (k : Cluster) : Prop :=
  ∀ key job, Table.get? key k.jobs = some job → job.Belongs key

namespace Cluster.Owned

variable {k k' : Cluster} {key : JobKey} {job : Job}

theorem of_jobs (owned : k.Owned) (same : k'.jobs = k.jobs) : k'.Owned := by
  intro key job found
  rw [same] at found
  exact owned key job found

theorem set (owned : k.Owned) (belongs : job.Belongs key)
    (written : k'.jobs = Table.set key job k.jobs) : k'.Owned := by
  intro other job' found
  rw [written, Table.get?_set] at found
  split at found
  · rename_i same
    obtain rfl := Option.some.inj found
    exact same ▸ belongs
  · exact owned other job' found

theorem erase (owned : k.Owned) (written : k'.jobs = Table.erase key k.jobs) : k'.Owned := by
  intro other job found
  rw [written, Table.get?_erase] at found
  split at found
  · cases found
  · exact owned other job found

end Cluster.Owned

/-! ## What is recorded on a job -/

namespace Job

variable {job : Job} {key : JobKey}

/-- A built job is owned by the definition it was built for. -/
theorem owner?_build {template : StreamTemplate} {v : StreamView} {c : Coordinates}
    {backfilling : Bool} {fields : List String} (built : build template v c backfilling fields = .ok job) :
    job.owner? = some ⟨{ c with kind := v.kind }, v.space, v.id⟩ := by
  unfold build at built
  split at built
  · cases built
  · obtain rfl := Except.ok.inj built
    have keys : Key.apiGroup ≠ Key.apiVersion ∧ Key.apiGroup ≠ Key.apiPlural ∧
        Key.apiVersion ≠ Key.apiPlural ∧ Key.streamId ≠ Key.streamKind ∧
        Key.streamId ≠ Key.backfilling ∧ Key.streamKind ≠ Key.backfilling := by
      decide
    simp [owner?, Metadata.annotation?, Metadata.label?, streamKind?, streamId, space, buildLabels,
      buildAnnotations, markPod, Dictionary.get?_insert, keys]

/-- A new version of a job says the same about its owner. -/
theorem Belongs.versioned (belongs : job.Belongs key) (version : String) :
    (Cluster.versionedJob job version).Belongs key := ⟨belongs.placed, belongs.owned⟩

/-- The state of a job has no part in what is recorded of its owner. -/
theorem owner?_annotate (job : Job) (value : Option String) :
    Job.owner? { job with metadata := job.metadata.annotate Key.state value } = job.owner? := by
  have kept : ∀ other, other ≠ Key.state →
      (job.metadata.annotate Key.state value).annotation? other = job.metadata.annotation? other :=
    fun other differ => Metadata.annotation?_annotate_of_ne _ differ value
  unfold owner?
  simp only
  rw [kept _ (by decide), kept _ (by decide), kept _ (by decide)]
  cases value <;> rfl

theorem Belongs.annotate (belongs : job.Belongs key) (value : Option String) :
    Job.Belongs key { job with metadata := job.metadata.annotate Key.state value } := by
  refine ⟨?_, ?_⟩
  · rw [← belongs.placed]
    cases value <;> rfl
  · rw [owner?_annotate]
    exact belongs.owned

end Job

/-! ## The job that a command is for -/

namespace Command

/-- The job that a command stops or annotates. -/
def jobTarget? : Command → Option JobKey
  | stopJob space name => some ⟨space, name⟩
  | annotate (.job space name) _ _ | unannotate (.job space name) _ _ => some ⟨space, name⟩
  | _ => none

/-- Of the jobs the command stops or annotates at most the one under a key, and of its annotations it
writes the state only. -/
inductive Concerns (key : JobKey) : Command → Prop where
  | nothing {command : Command} (untargeted : command.jobTarget? = none) : Concerns key command
  | stop {job : Job} (own : job.key = key) : Concerns key (.stop job)
  | mark {job : Job} {state : StreamState} (own : job.key = key) : Concerns key (markJob job state)

theorem Concerns.target {key key' : JobKey} {command : Command} (concerns : command.Concerns key)
    (target : command.jobTarget? = some key') : key' = key := by
  cases concerns with
  | nothing untargeted =>
    rw [untargeted] at target
    cases target
  | stop own => exact (Option.some.inj target).symm.trans own
  | mark own => exact (Option.some.inj target).symm.trans own

end Command

namespace Definition

variable {d : Definition} {type : EventType} {found : Option Job} {key : JobKey}

/-- What is decided on an event of a definition is for the job that was found, if any. -/
theorem concerns_of_mem_react (placed : ∀ job, found = some job → job.key = key) :
    ∀ command ∈ d.react type found, command.Concerns key := by
  cases type with
  | deleted => exact List.forall_mem_nil _
  | added =>
    cases found with
    | none =>
      simp only [react, onAdded]
      split <;> exact List.forall_mem_singleton.2 (.nothing rfl)
    | some job =>
      simp only [react, onAdded]
      split
      · exact List.forall_mem_singleton.2 (.nothing rfl)
      · split
        · exact List.forall_mem_singleton.2 (.stop (placed job rfl))
        · exact List.forall_mem_singleton.2 (.nothing rfl)
  | modified =>
    cases found with
    | none =>
      simp only [react, onModified]
      split
      · exact List.forall_mem_singleton.2 (.nothing rfl)
      · split
        · exact List.forall_mem_singleton.2 (.nothing rfl)
        · split
          · exact List.forall_mem_cons.2 ⟨.nothing rfl, List.forall_mem_singleton.2 (.nothing rfl)⟩
          · exact List.forall_mem_singleton.2 (.nothing rfl)
    | some job =>
      simp only [react, onModified]
      split
      · exact List.forall_mem_singleton.2 (.stop (placed job rfl))
      · split
        · exact List.forall_mem_cons.2
            ⟨.nothing rfl, List.forall_mem_singleton.2 (.mark (placed job rfl))⟩
        · split
          · exact List.forall_mem_singleton.2 (.mark (placed job rfl))
          · exact List.forall_mem_nil _

end Definition

/-- What is decided on an event of a job is for that job. -/
theorem Job.concerns_of_mem_react {job : Job} {type : EventType} {owner : Option Definition} :
    ∀ command ∈ job.react type owner, command.Concerns job.key := by
  cases type with
  | modified =>
    simp only [react, onModified]
    split
    · exact List.forall_mem_nil _
    · split
      · exact List.forall_mem_singleton.2 (.stop rfl)
      · split
        · exact List.forall_mem_singleton.2 (.stop rfl)
        · exact List.forall_mem_nil _
  | added =>
    cases owner with
    | none => exact List.forall_mem_nil _
    | some d =>
      simp only [react, onAdded]
      split
      · exact List.forall_mem_nil _
      · split
        · split
          · exact List.forall_mem_cons.2 ⟨.nothing rfl, List.forall_mem_singleton.2 (.nothing rfl)⟩
          · exact List.forall_mem_singleton.2 (.nothing rfl)
        · exact List.forall_mem_singleton.2 (.nothing rfl)
  | deleted =>
    cases owner with
    | none => exact List.forall_mem_nil _
    | some d =>
      simp only [react, onDeleted]
      split
      · exact List.forall_mem_cons.2 ⟨.nothing rfl, List.forall_mem_singleton.2 (.nothing rfl)⟩
      · split
        · exact List.forall_mem_singleton.2 (.nothing rfl)
        · split
          · exact List.forall_mem_singleton.2 (.nothing rfl)
          · exact List.forall_mem_singleton.2 (.nothing rfl)

/-! ## Owners stay -/

namespace Handler

variable {h : Handler Cluster} {k k' : Cluster} {d : Definition} {key : JobKey} {backfilling : Bool}
  {job : Job}

/-- A prepared job is one that was built for the definition and stands under its name. -/
theorem prepareJob_belongs (prepared : h.prepareJob d backfilling k = (.ok job, k')) :
    job.owner? = some d.reference ∧ job.Belongs d.jobKey := by
  have built : (h.prepareJob d backfilling).Yields fun job =>
      job.owner? = some d.reference ∧ job.name = d.id ∧ job.space = d.space := by
    unfold prepareJob
    split
    · exact .throw _
    · split
      · exact .throw _
      · refine .bind fun template => .ofExcept fun job built => ?_
        obtain ⟨name, space, -⟩ := Job.build_ok built
        exact ⟨Job.owner?_build built, name, space⟩
  obtain ⟨owner, name, space⟩ := built _ _ _ prepared
  refine ⟨owner, ?_, ?_⟩
  · rw [Job.key, name, space]
    rfl
  · intro ref own
    rw [owner] at own
    rw [← Option.some.inj own]
    rfl

/-- A prepared job whose name is taken is not sent, and its start counts as done. -/
theorem startJob_of_taken (inMemory : h.api = Cluster.api)
    (prepared : h.prepareJob d backfilling k = (.ok job, k))
    (works : k.failing.contains "send_job" = false)
    (taken : (k.job? d.space job.name).isSome = true) : h.startJob d backfilling k = (.ok (), k) := by
  have refused : Cluster.api.sendJob job d.space k = (.error (Cluster.refusal 409 "already exists"), k) := by
    show Cluster.sendJob job d.space k = _
    unfold Cluster.sendJob
    rw [Cluster.guardOperation_bind, works, Act.bind_ok (Act.get_apply k), taken]
    rfl
  unfold startJob
  rw [Act.bind_ok (Act.attempt_apply _ k), prepared]
  simp only
  rw [inMemory, Act.bind_ok (Act.attempt_apply _ k), refused]
  rfl

theorem startJob_owned (inMemory : h.api = Cluster.api) (owned : k.Owned) :
    (h.startJob d backfilling k).2.Owned := by
  have reads : (h.prepareJob d backfilling k).2 = k := prepareJob_reads inMemory backfilling k
  cases result : (h.prepareJob d backfilling k).1 with
  | error e => exact owned.of_jobs (startJob_jobs_of_unprepared inMemory (Prod.ext result reads))
  | ok job =>
    have prepared : h.prepareJob d backfilling k = (.ok job, k) := Prod.ext result reads
    obtain ⟨-, belongs⟩ := prepareJob_belongs prepared
    rcases Cluster.sendJob_cases job d.space k with
      ⟨e, unsent⟩ | ⟨version, k', sent, -, -, -, written⟩
    · exact owned.of_jobs (startJob_jobs_of_unsent inMemory prepared unsent)
    · rw [startJob_of_sent inMemory prepared sent]
      have key : (⟨d.space, job.name⟩ : JobKey) = d.jobKey := by
        obtain ⟨name, -, -⟩ := prepareJob_yields backfilling _ _ _ prepared
        rw [name]
        rfl
      rw [key] at written
      exact owned.set (belongs.versioned version) written

theorem stopJob_owned (inMemory : h.api = Cluster.api) (owned : k.Owned) (space name : String) :
    (h.stopJob space name k).2.Owned := by
  rw [stopJob_snd inMemory]
  rcases Cluster.deleteJob_cases space name k with ⟨e, failed⟩ | ⟨k', deleted, -, -, -, written⟩
  · rw [failed]
    exact owned
  · rw [deleted]
    exact owned.erase written

theorem annotate_owned (inMemory : h.api = Cluster.api) (owned : k.Owned) (space name : String)
    (value expected : Option String) :
    (h.annotate (.job space name) Key.state value expected k).2.Owned := by
  unfold annotate
  rcases (readAnnotation_reads inMemory (.job space name) Key.state).bind_cases _ k with
    ⟨e, failed⟩ | ⟨read, same⟩
  · rw [failed]
    exact owned
  · rw [same]
    split
    · rw [writeAnnotation_snd inMemory]
      rcases (Cluster.annotateJob_cases space name Key.state value k).2.2 with
        same | ⟨version, job, found, written⟩
      · exact owned.of_jobs same
      · exact owned.set (((owned _ _ found).annotate value).versioned version) written
    · exact owned

/-- A command that is neither for a job nor to start one leaves the jobs. -/
theorem jobs_handle {command : Command} (inMemory : h.api = Cluster.api)
    (untargeted : command.jobTarget? = none) (startless : command.isStartJob = false) (k : Cluster) :
    (h.handle command k).2.jobs = k.jobs := by
  cases command with
  | startJob d backfilling => cases startless
  | stopJob space name => cases untargeted
  | annotate target key value =>
    cases target with
    | job space name => cases untargeted
    | definition stream => exact (annotate_edits inMemory key (some value) none k).jobs
  | unannotate target key expected =>
    cases target with
    | job space name => cases untargeted
    | definition stream => exact (annotate_edits inMemory key none expected k).jobs
  | updateStatus stream phase conditions => exact (updateStatus_edits inMemory phase conditions k).jobs
  | setClassStatus c phase conditions => exact setClassStatus_jobs inMemory c phase conditions k

/-- Whatever a reconciler decides on, the jobs stand under the names of their owners afterwards. -/
theorem handle_owned {command : Command} (inMemory : h.api = Cluster.api)
    (concerns : command.Concerns key) (owned : k.Owned) : (h.handle command k).2.Owned := by
  cases concerns with
  | stop own => exact stopJob_owned inMemory owned _ _
  | mark own => exact annotate_owned inMemory owned _ _ _ _
  | nothing untargeted =>
    cases command with
    | startJob d backfilling => exact startJob_owned inMemory owned
    | _ => exact owned.of_jobs (jobs_handle inMemory untargeted rfl k)

end Handler

end StreamOperator
