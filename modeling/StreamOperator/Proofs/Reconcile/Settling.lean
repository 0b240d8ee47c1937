import StreamOperator.Proofs.Handler.Outcomes
import StreamOperator.Proofs.Reconcile.Steps

/-!
# The stream reconciler comes to rest

Whatever the stream reconciler writes on a definition is reported to it again. If nobody else touches the
cluster this ends: from any cluster two steps lead to one that no further step changes
(`settled_after_two`). A step that carries out a single command leads to rest unless the command stops the
stream's job, since the next step repeats the command (`Cluster.quiet_of_repeated`); after a stop, and after
a request to reload was taken back, there is one more step of that kind.
-/

set_option autoImplicit false

namespace StreamOperator

variable {classes : String → Option StreamClass} {stream : StreamRef} {d d' : Definition}
  {k k' : Cluster} {now : String}

/-- The cluster after the stream reconciler has processed a definition as it is stored, reported as
modified. -/
def Cluster.settle (classes : String → Option StreamClass) (stream : StreamRef) (k : Cluster)
    (now : String) : Cluster :=
  match Table.get? stream.key k.resources with
  | none => k
  | some r =>
    ((Reconciler.stream stream.coordinates).perform ⟨Cluster.api, classes, now⟩ ⟨.modified, r⟩ k).2

theorem Cluster.settle_of_stored (stored : d.StoredIn k) (now : String) :
    k.settle classes d.reference now = if k.failing.contains "get_job" then k else
      ((Handler.mk Cluster.api classes now).handleAll (d.onModified (k.jobOf d)) k).2 := by
  rw [settle, stored]
  show ((Reconciler.planStream d.coordinates Cluster.api ⟨.modified, d.resource⟩ >>= _) k).2 = _
  rw [Reconciler.planStream, if_neg (by simp)]
  show (((getJob d.space d.id >>= _) >>= _) k).2 = _
  rw [bind_assoc, getJob_bind]
  split <;> rfl

/-! ## Rest -/

/-- Whatever the time, a step changes nothing. -/
def Cluster.Quiet (classes : String → Option StreamClass) (stream : StreamRef) (k : Cluster) : Prop :=
  ∀ now, k.settle classes stream now = k

namespace Cluster

theorem Quiet.foldl (quiet : k.Quiet classes stream) (times : List String) :
    times.foldl (settle classes stream) k = k := by
  induction times with
  | nil => rfl
  | cons now rest ih => rw [List.foldl_cons, quiet now, ih]

/-- Steps carry out a command, whatever the time. -/
def Carries (classes : String → Option StreamClass) (stream : StreamRef) (command : Command)
    (k : Cluster) : Prop :=
  ∀ now, k.settle classes stream now = ((Handler.mk Cluster.api classes now).handle command k).2

/-- A step leads to rest if the next one would carry out the same command. -/
theorem quiet_of_repeated (command : Command) (unambiguous : command.Unambiguous)
    (first : k.Carries classes stream command)
    (again : (k.settle classes stream now).Carries classes stream command) :
    (k.settle classes stream now).Quiet classes stream := by
  intro later
  rw [again, first]
  exact congrArg Prod.snd
    (Handler.handle_again (h := ⟨Cluster.api, classes, now⟩) rfl unambiguous later k)

/-- A single command that is planned is carried out. -/
theorem carries_of_planned {command : Command} (retold : d.Retold d') (stored : d'.StoredIn k)
    (works : k.failing.contains "get_job" = false) (planned : d.onModified (k.jobOf d) = [command]) :
    k.Carries classes d.reference command := by
  intro now
  rw [← retold.toRewritten.reference, settle_of_stored stored, works, if_neg Bool.false_ne_true,
    retold.handleAll_onModified, jobOf, retold.toRewritten.jobKey, ← jobOf, planned,
    Handler.handleAll_singleton]

theorem quiet_of_nothing_planned (stored : d.StoredIn k) (planned : d.onModified (k.jobOf d) = []) :
    k.Quiet classes d.reference := by
  intro now
  rw [settle_of_stored stored, planned]
  split <;> rfl

theorem Quiet.settle (quiet : k.Quiet classes stream) (now : String) :
    (k.settle classes stream now).Quiet classes stream := by
  rw [quiet now]
  exact quiet

/-- Where jobs cannot be looked for there is rest already. -/
theorem quiet_of_refused (stored : d.StoredIn k) (refused : k.failing.contains "get_job" = true) :
    k.Quiet classes d.reference := by
  intro now
  rw [settle_of_stored stored, if_pos refused]

theorem quiet_after_of_works (stored : d.StoredIn k)
    (rest : k.failing.contains "get_job" = false →
      (k.settle classes d.reference now).Quiet classes d.reference) :
    (k.settle classes d.reference now).Quiet classes d.reference := by
  cases works : k.failing.contains "get_job" with
  | false => exact rest works
  | true => exact (quiet_of_refused stored works).settle now

end Cluster

/-! ## One step -/

section

variable (stored : d.StoredIn k)

include stored

namespace Cluster

/-- After a status was written the same command is carried out. -/
theorem carries_after_edits {command : Command} (works : k.failing.contains "get_job" = false)
    (planned : d.onModified (k.jobOf d) = [command])
    (edits : Edits d.reference.key (fun r r' => ∃ status version, r' = restated r status version) k k') :
    k'.Carries classes d.reference command := by
  obtain ⟨d', retold, stored'⟩ := edits.exists_retold stored
  refine carries_of_planned retold stored' (edits.failing ▸ works) ?_
  rw [← planned, jobOf, jobOf, edits.jobs]

/-- A step that only writes a status leads to rest. -/
theorem quiet_after_status {phase : StreamPhase} {reason message : String}
    (planned : d.onModified (k.jobOf d) = [.statusWithReason d.reference phase reason message])
    (now : String) : (k.settle classes d.reference now).Quiet classes d.reference := by
  refine quiet_after_of_works stored fun works => ?_
  have first : k.Carries classes d.reference (.statusWithReason d.reference phase reason message) :=
    carries_of_planned (.refl d) stored works planned
  refine quiet_of_repeated (.statusWithReason d.reference phase reason message)
    (phase.nodup_conditions reason message) first ?_
  rw [first]
  exact carries_after_edits stored works planned
    (Handler.updateStatus_edits (h := ⟨api, classes, now⟩) rfl phase (phase.conditions reason message) k)

/-- A step that starts a normal job leads to rest: the new job has the checksum of its definition, and if
there is none the start fails again in the same way. -/
theorem quiet_after_start (unsuspended : d.isSuspended = false) (unrequested : d.isReloadRequested = false)
    (planned : d.onModified (k.jobOf d) = [.startJob d false]) (now : String) :
    (k.settle classes d.reference now).Quiet classes d.reference := by
  refine quiet_after_of_works stored fun works => ?_
  have first : k.Carries classes d.reference (.startJob d false) :=
    carries_of_planned (.refl d) stored works planned
  rcases Handler.startJob_outcome (h := ⟨api, classes, now⟩) rfl d false k with
    ⟨job, call, checksum, created⟩ | edits
  · rw [first, Handler.handle, created]
    refine quiet_of_nothing_planned (d := d) stored ?_
    have current : (versionedJob job k.nextVersion).checksum? = some d.checksum := checksum
    rw [jobOf, afterJob_target]
    simp [Definition.onModified, unsuspended, unrequested, current]
  · refine quiet_of_repeated (.startJob d false) trivial first ?_
    rw [first]
    exact carries_after_edits stored works planned edits

/-- A step that asks a job to restart leads to rest: the job's checksum stays what it is. -/
theorem quiet_after_restart {job : Job} (unsuspended : d.isSuspended = false)
    (unrequested : d.isReloadRequested = false) (found : k.jobOf d = some job)
    (outdated : job.checksum? ≠ some d.checksum) (now : String) :
    (k.settle classes d.reference now).Quiet classes d.reference := by
  refine quiet_after_of_works stored fun works => ?_
  have planned : ∀ job' : Job, job'.checksum? = job.checksum? → job'.space = job.space →
      job'.name = job.name → d.onModified (some job') = [.requestRestart job] := by
    intro job' checksum space name
    simp [Definition.onModified, unsuspended, unrequested, checksum, outdated, Command.requestRestart,
      Command.markJob, space, name]
  have first : k.Carries classes d.reference (.requestRestart job) :=
    carries_of_planned (.refl d) stored works (found ▸ planned job rfl rfl rfl)
  refine quiet_of_repeated (.requestRestart job) trivial first ?_
  rw [first]
  obtain ⟨resources, failing, jobs⟩ := Handler.markJob_outcome (h := ⟨api, classes, now⟩) rfl job
    .restartRequested k
  obtain ⟨job', found', checksum, space, name⟩ := jobs d job found
  have stored' : d.StoredIn ((Handler.mk api classes now).handle (.requestRestart job) k).2 :=
    (congrArg (Table.get? d.reference.key) resources).trans stored
  refine carries_of_planned (.refl d) stored' (failing ▸ works) ?_
  exact found' ▸ planned job' checksum space name

/-- A definition that is neither suspended nor to be reloaded is at rest after a step. -/
theorem quiet_after_calm (unsuspended : d.isSuspended = false)
    (unrequested : d.isReloadRequested = false) (now : String) :
    (k.settle classes d.reference now).Quiet classes d.reference := by
  cases found : k.jobOf d with
  | none =>
    by_cases crashLoop : d.isCrashLoop = true
    · have planned : d.onModified (k.jobOf d) = [.crashLoopStatus d] := by
        rw [found, Definition.onModified, if_pos crashLoop]
      exact quiet_after_status stored planned now
    · refine quiet_after_start stored unsuspended unrequested ?_ now
      simp [found, Definition.onModified, crashLoop, unsuspended, unrequested]
  | some job =>
    by_cases current : job.checksum? = some d.checksum
    · refine (quiet_of_nothing_planned stored ?_).settle now
      simp [found, Definition.onModified, current, unsuspended, unrequested]
    · exact quiet_after_restart stored unsuspended unrequested found current now

end Cluster

/-! ## Two steps -/

/-- A suspended definition without a job is at rest after a step. -/
theorem Cluster.quiet_after_suspension (suspended : d.isSuspended = true) (gone : k.jobOf d = none)
    (now : String) : (k.settle classes d.reference now).Quiet classes d.reference := by
  have state : d.view.state? = some .suspended := by
    simpa [Definition.isSuspended, StreamView.isSuspended] using suspended
  have planned : d.onModified (k.jobOf d) = [.enterPhase d.reference .suspended] := by
    simp [gone, Definition.onModified, Definition.isCrashLoop, StreamView.isCrashLoop, state, suspended]
  exact quiet_after_status stored planned now

/-- The job of a suspended definition is stopped in the first step, unless another one is stopped under
its name or none. -/
theorem Cluster.quiet_after_stop {job : Job} (suspended : d.isSuspended = true)
    (found : k.jobOf d = some job) (first second : String) :
    ((k.settle classes d.reference first).settle classes d.reference second).Quiet classes
      d.reference := by
  cases works : k.failing.contains "get_job" with
  | true => exact ((quiet_of_refused stored works).settle first).settle second
  | false =>
    have planned : d.onModified (k.jobOf d) = [.stop job] := by
      simp [found, Definition.onModified, suspended]
    have carries : k.Carries classes d.reference (.stop job) :=
      carries_of_planned (.refl d) stored works planned
    have stopped : k.settle classes d.reference first
        = ((Handler.mk api classes first).stopJob job.space job.name k).2 := carries first
    rw [Handler.stopJob_apply rfl] at stopped
    rcases amend_snd "delete_job" "delete_job" _ k with same | written
    · refine (quiet_of_repeated (.stop job) trivial carries ?_).settle second
      rw [stopped, same]
      exact carries
    · obtain ⟨_, -, written⟩ := Option.map_eq_some_iff.1 written
      rw [← written] at stopped
      by_cases own : d.jobKey = ⟨job.space, job.name⟩
      · have stored' : d.StoredIn (k.afterDeletion ⟨job.space, job.name⟩
            ("delete_job " ++ job.space ++ "/" ++ job.name)) := stored
        rw [stopped]
        refine quiet_after_suspension stored' suspended ?_ second
        rw [jobOf, own, afterDeletion_target]
      · refine (quiet_of_repeated (.stop job) trivial carries ?_).settle second
        rw [stopped]
        refine carries_of_planned (.refl d) stored works ?_
        rw [← planned, jobOf, afterDeletion, Table.get?_erase_of_ne own, jobOf]

end

/-- A reload is answered by taking the request back and by a command that leaves the definition. -/
theorem Definition.onModified_of_requested (requested : d.isReloadRequested = true)
    (found : Option Job) : ∃ next, d.onModified found = [.dropReloadRequest d, next] ∧
      next.SparesState d := by
  obtain ⟨unsuspended, uncrashed⟩ := flags_of_requested requested
  cases found with
  | none =>
    refine ⟨_, ?_, Command.startJob_sparesState d true⟩
    simp [onModified, uncrashed, unsuspended, requested]
  | some job =>
    refine ⟨_, ?_, Command.markJob_sparesState d job .reloadRequested⟩
    simp [onModified, unsuspended, requested, Command.requestReload]

/-- A request to reload is taken back in the first step, unless it cannot be; then the definition has no
state. -/
theorem Cluster.quiet_after_reload (stored : d.StoredIn k) (requested : d.isReloadRequested = true)
    (first second : String) :
    ((k.settle classes d.reference first).settle classes d.reference second).Quiet classes
      d.reference := by
  obtain ⟨next, planned, spares⟩ := Definition.onModified_of_requested requested (k.jobOf d)
  have steps : ∀ now, k.settle classes d.reference now = if k.failing.contains "get_job" then k else
      (((Handler.mk api classes now).handle (.dropReloadRequest d) >>= fun _ =>
        (Handler.mk api classes now).handleAll [next]) k).2 := fun now => by
    rw [settle_of_stored stored, planned]
    rfl
  by_cases works : k.failing.contains "get_job" = true
  · exact ((quiet_of_refused stored works).settle first).settle second
  · have dropped : ∀ now, _ := fun now =>
      Handler.dropReload_apply stored requested (h := ⟨api, classes, now⟩) rfl
    by_cases refused : (k.failing.contains "get_custom_resource"
        || k.failing.contains "annotate_resource") = true
    · have quiet : k.Quiet classes d.reference := fun now => by
        rw [steps, if_neg works, Act.bind_error ((dropped now).trans (if_pos refused))]
      exact (quiet.settle first).settle second
    · rw [steps first, if_neg works, Act.bind_ok ((dropped first).trans (if_neg refused)),
        Handler.handleAll_singleton]
      -- Whatever the second command does, the definition that is left has no state.
      obtain ⟨d₁, rewritten, stored₁, stateless⟩ := k.exists_stateless d
      obtain ⟨d₂, retold, stored₂⟩ := spares ⟨api, classes, first⟩ _ d₁ rfl rewritten stored₁
      have state : d₂.view.state? = none := retold.state.trans (Metadata.state?_of_unannotated stateless)
      have reference : d₂.reference = d.reference :=
        retold.toRewritten.reference.trans rewritten.reference
      obtain ⟨unsuspended, unrequested, -⟩ := Definition.flags_of_stateless state
      rw [← reference]
      exact quiet_after_calm stored₂ unsuspended unrequested second

/-- Two steps of the stream reconciler lead to a cluster that no further step changes, from whatever
cluster, with whatever failures and at whatever times. -/
theorem settled_after_two (classes : String → Option StreamClass) (d : Definition) (k : Cluster)
    (stored : d.StoredIn k) (first second : String) (later : List String) :
    later.foldl (Cluster.settle classes d.reference)
        ([first, second].foldl (Cluster.settle classes d.reference) k)
      = [first, second].foldl (Cluster.settle classes d.reference) k := by
  have quiet : (Cluster.settle classes d.reference (Cluster.settle classes d.reference k first)
      second).Quiet classes d.reference := by
    cases requested : d.isReloadRequested with
    | true => exact Cluster.quiet_after_reload stored requested first second
    | false =>
      cases suspended : d.isSuspended with
      | false => exact (Cluster.quiet_after_calm stored suspended requested first).settle second
      | true =>
        cases found : k.jobOf d with
        | none => exact (Cluster.quiet_after_suspension stored suspended found first).settle second
        | some job => exact Cluster.quiet_after_stop stored suspended found first second
  exact quiet.foldl later

section Orders

def suspendedOrders : Definition := Orders.definition "1" (some .suspended)

/-- The orders are suspended and have a job. -/
def suspendedCluster : Cluster := Orders.cluster suspendedOrders [Orders.job "2" none []]

/-- The job is deleted in the first step and the status written in the second, and that is all. -/
theorem suspension_settles : suspendedOrders.StoredIn suspendedCluster ∧
    (["1", "2"].foldl (Cluster.settle (fun _ => none) suspendedOrders.reference)
        suspendedCluster).calls
      = ["patch_status order-streams/streams/orders SUSPENDED", "delete_job streams/orders"] ∧
    ["3", "4"].foldl (Cluster.settle (fun _ => none) suspendedOrders.reference)
        (["1", "2"].foldl (Cluster.settle (fun _ => none) suspendedOrders.reference) suspendedCluster)
      = ["1", "2"].foldl (Cluster.settle (fun _ => none) suspendedOrders.reference) suspendedCluster := by
  have stored : suspendedOrders.StoredIn suspendedCluster := rfl
  exact ⟨stored, by decide +kernel, settled_after_two _ _ _ stored _ _ _⟩

end Orders

end StreamOperator
