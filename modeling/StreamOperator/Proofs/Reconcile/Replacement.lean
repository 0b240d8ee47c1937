import StreamOperator.Proofs.Event.Repeats
import StreamOperator.Proofs.Handler.Outcomes
import StreamOperator.Proofs.Handler.Owners
import StreamOperator.Proofs.Reconcile.Steps

/-!
# The replacement of a job

A job whose configuration is out of date is replaced in two hops, and so is one that is to be reloaded. The
stream reconciler marks the job, the job reconciler stops the marked job, and once the job is gone it starts
another one, which has to be the right one (`outdated_job_is_replaced`). Each hop is one event; what it
leads to is worked out for the event alone (`Reconciler.Leads`), and the clusters that follow one another
are those after the three writes.
-/

set_option autoImplicit false

namespace StreamOperator

variable {classes : String → Option StreamClass} {d : Definition} {k k' : Cluster} {job : Job}

/-! ## Events -/

namespace Reconciler

variable {α : Type} {r : Reconciler Cluster α} {event : Event α} {commands : List Command}

/-- Whatever the time and whatever was seen before, an event that passes leads from one cluster to
another. -/
def Leads (r : Reconciler Cluster α) (classes : String → Option StreamClass) (event : Event α)
    (k k' : Cluster) : Prop :=
  ∀ now choice (seen : Deduplicator),
    (seen.filter choice r.kind (r.metadata event.resource)).1 = true →
      (r.process ⟨Cluster.api, classes, now⟩ choice seen event).2 k = (.ok (), k')

theorem leads_of_planned (planned : r.plan Cluster.api event k = (.ok commands, k))
    (carried : ∀ now, (Handler.mk Cluster.api classes now).handleAll commands k = (.ok (), k')) :
    r.Leads classes event k k' := by
  intro now choice seen passes
  show (if (seen.filter choice r.kind (r.metadata event.resource)).1 then _ else _ :
    Act Cluster Unit) k = _
  rw [if_pos passes, perform, Act.bind_ok planned]
  exact carried now

end Reconciler

/-- After a version of a resource has been seen, another version of it passes. -/
theorem Deduplicator.passes_of_ne (seen : Deduplicator) (m m' : Metadata)
    {kind version version' : String} (same : keyOf kind m' = keyOf kind m)
    (first : m.resourceVersion = some version) (second : m'.resourceVersion = some version')
    (differ : version' ≠ version) (choice choice' : Nat) :
    ((seen.filter choice kind m).2.filter choice' kind m').1 = true := by
  rw [filter_of_version first, filter_of_version second, same, judge_fst, get?_judge_self]
  exact fun repeated => differ (Option.some.inj repeated).symm

/-! ## Marked jobs -/

namespace Job

/-- The job with a state. -/
def marked (job : Job) (state : StreamState) : Job :=
  { job with metadata := job.metadata.annotate Key.state (some state.text) }

theorem marked_state? (state : StreamState) : (job.marked state).state? = some state := by
  show ((job.metadata.annotate Key.state (some state.text)).annotation? Key.state).bind _ = _
  rw [Metadata.annotation?_annotate_self]
  exact StreamState.ofText?_text state

end Job

/-! ## Jobs that can be started -/

/-- A job can be made for the definition: its class is registered, and the template it refers to is stored,
can be parsed and has a job specification. -/
def Definition.Runnable (classes : String → Option StreamClass) (k : Cluster) (d : Definition)
    (backfilling : Bool) : Prop :=
  ∃ (c : StreamClass) (ref : TemplateRef) (r : Resource) (t : StreamTemplate),
    classes d.coordinates.kind = some c ∧ d.template? backfilling = some ref ∧
    k.resource? StreamTemplate.coordinates (ref.space.getD d.space) ref.name = some r ∧
    r.parse StreamTemplate.decode = .ok t ∧ t.template.spec.isSome = true

namespace Handler

theorem exists_prepared {backfilling : Bool} (works : k.failing = [])
    (runnable : d.Runnable classes k backfilling) : ∃ job,
      (∃ template fields, Job.build template d.view d.coordinates backfilling fields = .ok job) ∧
      ∀ now, ((Handler.mk Cluster.api classes now).prepareJob d backfilling k).1 = .ok job := by
  obtain ⟨c, ref, r, t, registered, refers, stored, parsed, specified⟩ := runnable
  obtain ⟨spec, specified⟩ := Option.isSome_iff_exists.1 specified
  have named : d.view.templateRef? backfilling = some ref := by
    rw [← refers]
    cases backfilling <;> rfl
  have found : ∀ now, (Handler.mk Cluster.api classes now).findTemplate d ref k = (.ok t, k) := by
    intro now
    show (Cluster.getResource _ _ _ >>= _) k = _
    rw [Cluster.getResource_bind, works, stored]
    simp only [List.contains_nil, Bool.false_eq_true, if_false, parsed]
    rfl
  obtain ⟨job, built⟩ : ∃ job, Job.build t d.view d.coordinates backfilling c.spec.secretRefFields
      = .ok job := by
    rw [Job.build, specified]
    exact ⟨_, rfl⟩
  refine ⟨job, ⟨t, _, built⟩, fun now => ?_⟩
  simp only [prepareJob, registered, named]
  rw [Act.bind_ok (found now), built]
  rfl

/-- A job that has not the state yet is marked with it. -/
theorem markJob_apply {h : Handler Cluster} (inMemory : h.api = Cluster.api) (state : StreamState)
    (works : k.failing = []) (found : Table.get? job.key k.jobs = some job)
    (unmarked : job.state? ≠ some state) : h.handle (.markJob job state) k =
      (.ok (), k.afterJob job.key (job.marked state)
        (Cluster.annotateJobCall job.space job.name Key.state (some state.text))) := by
  have changed : job.metadata.annotation? Key.state ≠ some state.text := by
    intro same
    refine unmarked ?_
    rw [Job.state?, Metadata.state?, same]
    exact StreamState.ofText?_text state
  have found : k.job? job.space job.name = some job := found
  have written : reannotate (.job job.space job.name) Key.state (some state.text) none k
      = some (k.afterJob job.key (job.marked state)
        (Cluster.annotateJobCall job.space job.name Key.state (some state.text))) := by
    rw [reannotate, found, Option.bind_some, if_pos (by simp [shouldAnnotate, changed])]
    rfl
  rw [Command.markJob, handle, annotate_apply inMemory, Cluster.amend, written, works]
  rfl

end Handler

/-! ## Hops -/

/-- The state that a job is marked with when it is to be replaced. -/
def Definition.replacementMark (d : Definition) : StreamState :=
  if d.isReloadRequested then .reloadRequested else .restartRequested

theorem Definition.replacementMark_cases (d : Definition) :
    d.replacementMark = .reloadRequested ∨ d.replacementMark = .restartRequested := by
  cases requested : d.isReloadRequested <;> simp [replacementMark, requested]

/-- After a job that was marked the next one backfills if a reload was requested. -/
theorem Job.backfills_of_mark (mark : job.state? = some d.replacementMark) :
    (job.isReloadRequested || job.isSchemaMismatch) = d.isReloadRequested := by
  rw [isReloadRequested, isSchemaMismatch, mark, Definition.replacementMark]
  cases d.isReloadRequested <;> rfl

/-- The cluster after a request to reload, if there is one, was taken back. -/
def Cluster.answered (k : Cluster) (d : Definition) : Cluster :=
  if d.isReloadRequested then k.withoutState d else k

theorem Cluster.answered_jobs (k : Cluster) (d : Definition) : (k.answered d).jobs = k.jobs := by
  rw [answered]
  split <;> rfl

/-- The cluster after the job of a definition was marked to be replaced. -/
def Cluster.afterMark (k : Cluster) (d : Definition) (job : Job) : Cluster :=
  (k.answered d).afterJob d.jobKey (job.marked d.replacementMark)
    (annotateJobCall d.space d.id Key.state (some d.replacementMark.text))

/-- The cluster after the job of a definition was stopped. -/
def Cluster.afterStop (k : Cluster) (d : Definition) : Cluster :=
  k.afterDeletion d.jobKey ("delete_job " ++ d.space ++ "/" ++ d.id)

/-- The cluster after a job of a definition was started. -/
def Cluster.afterStart (k : Cluster) (d : Definition) (job : Job) : Cluster :=
  k.afterJob d.jobKey job ("send_job " ++ d.space ++ "/" ++ d.id)

theorem Cluster.calls_afterMark : (k.afterMark d job).calls =
    Cluster.annotateJobCall d.space d.id Key.state (some d.replacementMark.text) ::
      (if d.isReloadRequested then [Cluster.annotateCall d.coordinates d.space d.id Key.state none]
        else []) ++ k.calls := by
  show _ :: (k.answered d).calls = _
  rw [answered]
  cases d.isReloadRequested <;> rfl

/-- Jobs of other names stay. -/
theorem Cluster.jobs_afterStop {key : JobKey} (other : key ≠ d.jobKey) :
    Table.get? key ((k.afterMark d job).afterStop d).jobs = Table.get? key k.jobs := by
  rw [← k.answered_jobs d]
  exact (Table.get?_erase_of_ne other _).trans (Table.get?_set_of_ne other _ _)

theorem Cluster.afterStart_of_rewritten {d' : Definition} (rewritten : d.Rewritten d') :
    k.afterStart d' job = k.afterStart d job := by
  rw [afterStart, rewritten.jobKey, rewritten.space, rewritten.id, afterStart]

namespace Reconciler

/-- The stream reconciler marks an outdated job, after it has taken a request to reload back. -/
theorem stream_leads_afterMark (works : k.failing = []) (stored : d.StoredIn k)
    (state : d.view.state? = none ∨ d.isReloadRequested = true) (found : k.jobOf d = some job)
    (own : job.key = d.jobKey) (unmarked : job.state? = none)
    (outdated : job.checksum? ≠ some d.checksum) :
    (Reconciler.stream d.coordinates).Leads classes ⟨.modified, d.resource⟩ k (k.afterMark d job) := by
  have planned : planStream d.coordinates Cluster.api ⟨.modified, d.resource⟩ k
      = (.ok (d.onModified (k.jobOf d)), k) := planStream_of_works (by simp) (by rw [works]; rfl)
  refine leads_of_planned planned fun now => ?_
  have marks : ∀ k₀ : Cluster, k₀.failing = [] → k₀.jobs = k.jobs →
      (Handler.mk Cluster.api classes now).handleAll [.markJob job d.replacementMark] k₀
        = (.ok (), k₀.afterJob d.jobKey (job.marked d.replacementMark)
          (Cluster.annotateJobCall d.space d.id Key.state (some d.replacementMark.text))) := by
    intro k₀ works same
    obtain ⟨space, name⟩ := JobKey.mk.inj own
    have found : Table.get? job.key k₀.jobs = some job := by rw [same, own, ← found]; rfl
    have marked := Handler.markJob_apply (h := ⟨Cluster.api, classes, now⟩) rfl d.replacementMark
      works found (by simp [unmarked])
    rw [own, space, name] at marked
    exact Act.bind_ok marked
  rw [found, Cluster.afterMark, Cluster.answered]
  rcases state with stateless | requested
  · obtain ⟨unsuspended, unrequested, -⟩ := Definition.flags_of_stateless stateless
    have decided : d.onModified (some job) = [.markJob job d.replacementMark] := by
      simp [Definition.onModified, unsuspended, unrequested, outdated, Definition.replacementMark,
        Command.requestRestart]
    rw [decided, unrequested, if_neg Bool.false_ne_true]
    exact marks k works rfl
  · obtain ⟨unsuspended, -⟩ := Definition.flags_of_requested requested
    have decided : d.onModified (some job)
        = [.dropReloadRequest d, .markJob job d.replacementMark] := by
      simp [Definition.onModified, unsuspended, requested, Definition.replacementMark,
        Command.requestReload]
    have dropped : (Handler.mk Cluster.api classes now).handle (.dropReloadRequest d) k
        = (.ok (), k.withoutState d) :=
      (Handler.dropReload_apply stored requested rfl).trans (if_neg (by simp [works]))
    rw [decided, requested, if_pos rfl]
    exact (Act.bind_ok dropped).trans (marks (k.withoutState d) works rfl)

/-- The job reconciler stops a job that was marked to be replaced. -/
theorem job_leads_afterStop (works : k.failing = []) (found : k.jobOf d = some job)
    (own : job.key = d.jobKey) (remains : job.metadata.deletionTimestamp = none)
    (marked : job.state? = some .reloadRequested ∨ job.state? = some .restartRequested) :
    Reconciler.job.Leads classes ⟨.modified, job⟩ k (k.afterStop d) := by
  have decided : job.onModified = [.stop job] := by
    rcases marked with state | state <;>
      simp [Job.onModified, Job.isTerminating, Job.isReloadRequested, Job.isRestartRequested, remains,
        state, StreamState.isTerminating]
  have planned : planJob Cluster.api ⟨.modified, job⟩ k = (.ok [.stop job], k) := by
    rw [← decided]
    rfl
  refine leads_of_planned planned fun now => ?_
  · obtain ⟨space, name⟩ := JobKey.mk.inj own
    have there : k.job? d.space d.id = some job := found
    have stopped : (Handler.mk Cluster.api classes now).handle (.stop job) k
        = (.ok (), k.afterStop d) := by
      rw [Command.stop, Handler.handle, Handler.stopJob_apply rfl, Cluster.amend, works, space, name,
        there]
      rfl
    exact Act.bind_ok stopped

/-- When a job that has not failed is gone, the job reconciler starts another one. -/
theorem job_leads_afterStart {gone : Job} (works : k.failing = []) (stored : d.StoredIn k)
    (owner : gone.owner? = some d.reference) (unfailed : gone.isFailed = false)
    (unsuspended : d.isSuspended = false) (uncrashed : d.isCrashLoop = false) (free : k.jobOf d = none)
    (prepared : ∀ now, ((Handler.mk Cluster.api classes now).prepareJob d
      (gone.isReloadRequested || gone.isSchemaMismatch) k).1 = .ok job) (named : job.name = d.id) :
    Reconciler.job.Leads classes ⟨.deleted, gone⟩ k (k.afterStart d job) := by
  have decided : gone.onDeleted (some d)
      = [.startJob d (gone.isReloadRequested || gone.isSchemaMismatch)] := by
    simp [Job.onDeleted, unfailed, unsuspended, uncrashed]
  have found : Reconciler.owner Cluster.api gone k = (.ok (some d), k) := by
    have there : k.resource? d.reference.coordinates d.reference.space d.reference.name
        = some d.resource := stored
    rw [Reconciler.owner, owner]
    show (Cluster.getResource _ _ _ >>= _) k = _
    rw [Cluster.getResource_bind, works, there]
    rfl
  have planned : planJob Cluster.api ⟨.deleted, gone⟩ k = (.ok (gone.onDeleted (some d)), k) := by
    rw [planJob, if_neg (by simp), Act.bind_ok found]
    rfl
  refine leads_of_planned planned fun now => ?_
  · have unsent : k.job? d.space job.name = none := by
      rw [named]
      exact free
    have started : (Handler.mk Cluster.api classes now).handle
        (.startJob d (gone.isReloadRequested || gone.isSchemaMismatch)) k
        = (.ok (), k.afterStart d job) := by
      rw [Handler.handle, Handler.startJob_of_prepared (prepared now) rfl, works, unsent, named]
      rfl
    rw [decided]
    exact Act.bind_ok started

end Reconciler

/-- Nothing is to be done for a definition without a state whose job is up to date. -/
theorem Reconciler.planStream_of_current (works : k.failing = []) (stateless : d.view.state? = none)
    (found : k.jobOf d = some job) (current : job.checksum? = some d.checksum) :
    planStream d.coordinates Cluster.api ⟨.modified, d.resource⟩ k = (.ok [], k) := by
  obtain ⟨unsuspended, unrequested, -⟩ := Definition.flags_of_stateless stateless
  have planned : planStream d.coordinates Cluster.api ⟨.modified, d.resource⟩ k
      = (.ok (d.onModified (k.jobOf d)), k) := planStream_of_works (by simp) (by rw [works]; rfl)
  have nothing : d.onModified (some job) = [] := by
    simp [Definition.onModified, unsuspended, unrequested, current]
  rw [planned, found, nothing]

/-! ## What the hops leave of the definition -/

/-- The definition has no state after a request to reload was taken back, and if there was none it is the
same. -/
theorem Cluster.exists_answered (stored : d.StoredIn k)
    (state : d.view.state? = none ∨ d.isReloadRequested = true) : ∃ d', d.Rewritten d' ∧
      d'.StoredIn (k.answered d) ∧ d'.view.state? = none ∧
      if d.isReloadRequested then d'.resource.metadata.annotation? Key.state = none else d' = d := by
  rw [answered]
  rcases state with stateless | requested
  · obtain ⟨-, unrequested, -⟩ := Definition.flags_of_stateless stateless
    simp only [unrequested, Bool.false_eq_true, if_false]
    exact ⟨d, .refl d, stored, stateless, rfl⟩
  · simp only [requested, if_true]
    obtain ⟨d', rewritten, stored', unannotated⟩ := k.exists_stateless d
    exact ⟨d', rewritten, stored', Metadata.state?_of_unannotated unannotated, unannotated⟩

/-- To take a request to reload back leaves the resources that jobs are made from. -/
theorem Cluster.renewed_answered (stored : d.StoredIn k) : k.Renewed (k.answered d) := by
  rw [answered]
  split
  · have edits : Edits d.reference.key (fun r r' => ∃ version, r' = annotated r Key.state none version)
        k (k.withoutState d) :=
      ⟨rfl, rfl, .inr ⟨d.resource, _, stored, ⟨_, rfl⟩, rfl⟩⟩
    refine edits.renewed ?_
    rintro r _ ⟨version, rfl⟩
    exact r.rewritten_annotated Key.state none version
  · exact .refl k

/-! ## Outdated jobs -/

/-- The job was built for an earlier configuration of the definition and has run since: it was neither
marked nor deleted, and it has not failed. -/
structure Job.OutdatedFor (job : Job) (d : Definition) : Prop where
  built : ∃ (earlier : Definition) (template : StreamTemplate) (backfilling : Bool)
    (fields : List String) (made : Job),
    Job.build template earlier.view earlier.coordinates backfilling fields = .ok made ∧
    earlier.reference = d.reference ∧ earlier.checksum ≠ d.checksum ∧
    job.key = made.key ∧ job.owner? = made.owner? ∧ job.checksum? = made.checksum?
  unmarked : job.state? = none
  remains : job.metadata.deletionTimestamp = none
  unfailed : job.isFailed = false

namespace Job.OutdatedFor

theorem key (outdated : job.OutdatedFor d) : job.key = d.jobKey := by
  obtain ⟨earlier, _, _, _, made, built, reference, -, key, -, -⟩ := outdated.built
  obtain ⟨name, space, -⟩ := Job.build_ok built
  have own : made.key = earlier.reference.jobKey := by
    rw [Job.key, name, space]
    rfl
  rw [key, own, reference]
  rfl

theorem owner? (outdated : job.OutdatedFor d) : job.owner? = some d.reference := by
  obtain ⟨earlier, _, _, _, made, built, reference, -, -, owner, -⟩ := outdated.built
  rw [owner, Job.owner?_build built, ← reference]
  rfl

theorem checksum? (outdated : job.OutdatedFor d) : job.checksum? ≠ some d.checksum := by
  obtain ⟨earlier, _, _, _, made, built, -, differ, -, -, checksum⟩ := outdated.built
  rw [checksum, Job.checksum?_build built]
  exact fun same => differ (Option.some.inj same)

end Job.OutdatedFor

/-! ## The replacement -/

/-- How a job of a definition is replaced: three events lead from a cluster to three more, and the job of
the last one is the right one for what is stored of the definition then. -/
structure Replacement (classes : String → Option StreamClass) (d : Definition)
    (k k₁ k₂ k₃ : Cluster) (marked final : Job) (d' : Definition) : Prop where
  marks : (Reconciler.stream d.coordinates).Leads classes ⟨.modified, d.resource⟩ k k₁
  found : k₁.jobOf d = some marked
  stops : Reconciler.job.Leads classes ⟨.modified, marked⟩ k₁ k₂
  /-- What is gone is reported in a version of its own. -/
  starts : ∀ version,
    Reconciler.job.Leads classes ⟨.deleted, Cluster.versionedJob marked version⟩ k₂ k₃
  /-- That the job is gone passes after the report of the mark. -/
  heard : ∀ (seen : Deduplicator) (choice choice' : Nat) (version : String),
    marked.metadata.resourceVersion ≠ some version →
      ((seen.filter choice "Job" marked.metadata).2.filter choice' "Job"
        (Cluster.versionedJob marked version).metadata).1 = true
  /-- Of jobs, one is marked in the first step, one deleted in the second and one created in the third. -/
  calls₁ : k₁.calls = Cluster.annotateJobCall d.space d.id Key.state (some d.replacementMark.text) ::
    (if d.isReloadRequested then [Cluster.annotateCall d.coordinates d.space d.id Key.state none] else [])
      ++ k.calls
  calls₂ : k₂.calls = ("delete_job " ++ d.space ++ "/" ++ d.id) :: k₁.calls
  calls₃ : k₃.calls = ("send_job " ++ d.space ++ "/" ++ d.id) :: k₂.calls
  gone : k₂.jobOf d = none
  /-- Nor is there a job under another name that the definition owns. -/
  unowned : k.Owned → ∀ key other, Table.get? key k₂.jobs = some other → other.owner? ≠ some d.reference
  others : ∀ key, key ≠ d.jobKey → Table.get? key k₃.jobs = Table.get? key k.jobs
  created : k₃.jobOf d = some final
  checksum : final.checksum? = some d.checksum
  owner : final.owner? = some d.reference
  backfilling : final.isBackfilling = d.isReloadRequested
  rewritten : d.Rewritten d'
  stored : d'.StoredIn k₃
  /-- The request to reload is gone, and another annotation stays. -/
  state : if d.isReloadRequested then d'.resource.metadata.annotation? Key.state = none else d' = d
  settled : Reconciler.planStream d.coordinates Cluster.api ⟨.modified, d'.resource⟩ k₃ = (.ok [], k₃)

/-- An outdated job of a definition that is to run is replaced by the right one, with whatever time passing
between the events. -/
theorem outdated_job_is_replaced (works : k.failing = []) (stored : d.StoredIn k)
    (runnable : ∀ backfilling, d.Runnable classes k backfilling)
    (state : d.view.state? = none ∨ d.isReloadRequested = true)
    (found : k.jobOf d = some job) (outdated : job.OutdatedFor d) :
    ∃ k₁ k₂ k₃ marked final d', Replacement classes d k k₁ k₂ k₃ marked final d' := by
  obtain ⟨made, ⟨template, fields, built⟩, prepared⟩ :=
    Handler.exists_prepared works (runnable d.isReloadRequested)
  obtain ⟨named, -, label⟩ := Job.build_ok built
  have current : made.checksum? = some d.checksum := Job.checksum?_build built
  have owned : made.owner? = some d.reference := Job.owner?_build built
  obtain ⟨d', rewritten, stored', stateless, annotation⟩ := Cluster.exists_answered stored state
  have answered := Cluster.renewed_answered stored
  -- The clusters after the three events, and the job that was marked.
  let marked := Cluster.versionedJob (job.marked d.replacementMark) (k.answered d).nextVersion
  let k₁ := k.afterMark d job
  let k₂ := k₁.afterStop d
  have works₁ : k₁.failing = [] := answered.failing.trans works
  have found₁ : k₁.jobOf d = some marked := Cluster.afterJob_target
  have gone : k₂.jobOf d = none := Cluster.afterDeletion_target
  have mark : marked.state? = some d.replacementMark := Job.marked_state? _
  have owner : marked.owner? = some d'.reference := by
    rw [rewritten.reference, ← outdated.owner?]
    exact Job.owner?_annotate job (some d.replacementMark.text)
  have prepared' : ∀ now, ((Handler.mk Cluster.api classes now).prepareJob d'
      (marked.isReloadRequested || marked.isSchemaMismatch) k₂).1 = .ok made := by
    intro now
    have renewed : k.Renewed k₂ := ⟨answered.failing, answered.resources⟩
    rw [Job.backfills_of_mark mark, rewritten.prepareJob, Handler.prepareJob_fst rfl renewed]
    exact prepared now
  refine ⟨k₁, k₂, k₂.afterStart d made, marked, Cluster.versionedJob made k₂.nextVersion, d', {
    marks := Reconciler.stream_leads_afterMark works stored state found outdated.key outdated.unmarked
      outdated.checksum?
    found := found₁
    stops := Reconciler.job_leads_afterStop works₁ found₁ outdated.key outdated.remains ?_
    starts := ?_
    heard := ?_
    calls₁ := Cluster.calls_afterMark
    calls₂ := rfl
    calls₃ := rfl
    gone := gone
    unowned := ?_
    others := fun key other =>
      (Table.get?_set_of_ne other _ _).trans (Cluster.jobs_afterStop other)
    created := Cluster.afterJob_target
    checksum := current
    owner := owned
    backfilling := label
    rewritten := rewritten
    stored := stored'
    state := annotation
    settled := ?_ }⟩
  · rw [mark, Option.some_inj, Option.some_inj]
    exact d.replacementMark_cases
  · intro version
    rw [← Cluster.afterStart_of_rewritten rewritten]
    have free : k₂.jobOf d' = none := by
      rw [Cluster.jobOf, rewritten.jobKey]
      exact gone
    obtain ⟨unsuspended, -, uncrashed⟩ := Definition.flags_of_stateless stateless
    exact Reconciler.job_leads_afterStart works₁ stored' owner outdated.unfailed unsuspended uncrashed
      free prepared' (named.trans rewritten.id.symm)
  · intro seen choice choice' version differ
    have version₁ : marked.metadata.resourceVersion = some (k.answered d).nextVersion := rfl
    refine seen.passes_of_ne marked.metadata (Cluster.versionedJob marked version).metadata rfl
      version₁ rfl (fun same => differ ?_) choice choice'
    rw [same]
    exact version₁
  · intro ownedByName key other found owns
    have differ : key ≠ d.jobKey := by
      rintro rfl
      cases gone.symm.trans found
    rw [Cluster.jobs_afterStop differ] at found
    exact differ ((ownedByName key other found).owned _ owns).symm
  · have present : (k₂.afterStart d made).jobOf d'
        = some (Cluster.versionedJob made k₂.nextVersion) := by
      rw [Cluster.jobOf, rewritten.jobKey]
      exact Cluster.afterJob_target
    rw [← rewritten.coordinates]
    exact Reconciler.planStream_of_current works₁ stateless present (rewritten.checksum ▸ current)

section Orders

/-- The orders with a request to reload. -/
def reloadedOrders : Definition := Orders.definition "3" (some .reloadRequested)

/-- The orders before a template for backfills was named. -/
def earlierOrders : Definition where
  resource := { (Orders.definition "1" none).resource with
    data := Dictionary.ofList [("spec", .obj [("jobTemplateRef", .obj [("name", .str "plain")])])] }
  coordinates := Orders.kind

theorem exists_outdated_orders : ∃ job : Job, job.OutdatedFor reloadedOrders := by
  have differ : earlierOrders.checksum ≠ reloadedOrders.checksum := by decide +kernel
  refine ⟨_, ⟨earlierOrders, ⟨Orders.template.metadata, { spec := some {} }⟩, false, [], _, rfl, rfl,
    differ, rfl, rfl, rfl⟩, ?_, rfl, rfl⟩
  decide +kernel

theorem runnable_orders (jobs : List Job) (backfilling : Bool) :
    reloadedOrders.Runnable (fun _ => some Orders.streamClass) (Orders.cluster reloadedOrders jobs)
      backfilling := by
  obtain ⟨t, parsed, specified⟩ : ∃ t, Orders.template.parse StreamTemplate.decode = .ok t ∧
      t.template.spec.isSome = true := ⟨_, rfl, by decide +kernel⟩
  refine ⟨Orders.streamClass, ⟨"plain", none⟩, Orders.template, t, rfl, ?_, rfl, parsed, specified⟩
  cases backfilling <;> decide +kernel

/-- An outdated job of the orders is replaced. -/
theorem outdated_orders_are_replaced : ∃ (k k₁ k₂ k₃ : Cluster) (job marked final : Job)
    (d' : Definition), k.jobOf reloadedOrders = some job ∧ job.OutdatedFor reloadedOrders ∧
      Replacement (fun _ => some Orders.streamClass) reloadedOrders k k₁ k₂ k₃ marked final d' := by
  obtain ⟨job, outdated⟩ := exists_outdated_orders
  have stored : reloadedOrders.StoredIn (Orders.cluster reloadedOrders [job]) := rfl
  have found : (Orders.cluster reloadedOrders [job]).jobOf reloadedOrders = some job := rfl
  obtain ⟨k₁, k₂, k₃, marked, final, d', replaced⟩ := outdated_job_is_replaced rfl stored
    (runnable_orders [job]) (.inr (by decide)) found outdated
  exact ⟨_, k₁, k₂, k₃, job, marked, final, d', found, outdated, replaced⟩

end Orders

end StreamOperator
