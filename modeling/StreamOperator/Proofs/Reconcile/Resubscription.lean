import StreamOperator.Proofs.Handler.Outcomes
import StreamOperator.Proofs.Handler.Owners
import StreamOperator.Proofs.Reconcile.Steps

/-!
# Listing anew

When a pipeline starts again, what is there is reported to it as added. This resumes nothing that a
modification would have called for: no job is asked to restart or to reload, and none is stopped because it
was asked to or has finished (`pending_restart_is_not_resumed`). Nor does it lose anything, since what is
decided on such a report leaves the jobs and writes at most a status of the definition; so the next
modification calls for the same (`pending_work_waits`).
-/

set_option autoImplicit false

namespace StreamOperator

variable {d : Definition} {k : Cluster} {job : Job}

/-- What every command keeps is kept by all of them. -/
theorem Handler.handleAll_keeps {h : Handler Cluster} {P : Cluster → Prop} {commands : List Command}
    (step : ∀ command ∈ commands, ∀ k, P k → P (h.handle command k).2) (first : P k) :
    P (h.handleAll commands k).2 := by
  induction commands generalizing k with
  | nil => exact first
  | cons command rest ih =>
    obtain ⟨own, others⟩ := List.forall_mem_cons.1 step
    have next := own k first
    rw [handleAll, Act.bind_apply]
    generalize h.handle command k = outcome at next ⊢
    obtain ⟨_ | _, k'⟩ := outcome
    · exact next
    · exact ih others next

/-- What an event leads to is what its commands lead to, if they can be planned. -/
theorem Reconciler.perform_cases {α : Type} {r : Reconciler Cluster α} {h : Handler Cluster}
    {event : Event α} (reads : (r.plan h.api event).Reads) (k : Cluster) :
    (r.perform h event k).2 = k ∨ ∃ commands, r.plan h.api event k = (.ok commands, k) ∧
      (r.perform h event k).2 = (h.handleAll commands k).2 := by
  have same := reads k
  cases planned : r.plan h.api event k with
  | mk result k' =>
    rw [planned] at same
    obtain rfl : k' = k := same
    cases result with
    | error e => exact .inl (by rw [perform, Act.bind_error planned])
    | ok commands => exact .inr ⟨commands, rfl, by rw [perform, Act.bind_ok planned]⟩

/-! ## Reports of jobs -/

/-- What is decided on a job that is there is for its definition alone. -/
theorem Job.untargeted_of_mem_onAdded {owner : Option Definition} :
    ∀ command ∈ job.onAdded owner, command.jobTarget? = none ∧ command.isStartJob = false := by
  cases owner with
  | none => exact List.forall_mem_nil _
  | some d =>
    simp only [onAdded]
    split
    · exact List.forall_mem_nil _
    · split
      · split
        · exact List.forall_mem_cons.2 ⟨⟨rfl, rfl⟩, List.forall_mem_singleton.2 ⟨rfl, rfl⟩⟩
        · exact List.forall_mem_singleton.2 ⟨rfl, rfl⟩
      · exact List.forall_mem_singleton.2 ⟨rfl, rfl⟩

theorem Command.isStopJob_of_untargeted {command : Command} (untargeted : command.jobTarget? = none) :
    command.isStopJob = false := by
  cases command with
  | stopJob space name => cases untargeted
  | _ => rfl

/-- The cluster after a job was reported as added. -/
def Cluster.afterJobListed (classes : String → Option StreamClass) (now : String) (job : Job)
    (k : Cluster) : Cluster :=
  (Reconciler.job.perform ⟨api, classes, now⟩ ⟨.added, job⟩ k).2

/-- All jobs stay when a job is reported as added. -/
theorem Cluster.jobs_afterJobListed (classes : String → Option StreamClass) (now : String) (job : Job)
    (k : Cluster) : (k.afterJobListed classes now job).jobs = k.jobs := by
  rcases Reconciler.job.perform_cases (h := ⟨Cluster.api, classes, now⟩)
    (Reconciler.planJob_reads ⟨.added, job⟩) k with same | ⟨commands, planned, led⟩
  · rw [afterJobListed, same]
  · obtain ⟨owner, decided⟩ := Reconciler.planJob_yields ⟨.added, job⟩ _ _ _ planned
    rw [afterJobListed, led]
    refine Handler.handleAll_keeps (P := fun k' => k'.jobs = k.jobs) (fun command member k' kept => ?_) rfl
    rw [decided] at member
    obtain ⟨untargeted, startless⟩ := Job.untargeted_of_mem_onAdded command member
    exact (Handler.jobs_handle rfl untargeted startless k').trans kept

/-! ## Reports of definitions -/

/-- The command asks a job to restart or to reload. -/
def Command.AsksToGo (job : Job) (command : Command) : Prop :=
  command = .requestRestart job ∨ command = .requestReload job

namespace Definition

/-- A definition that was suspended asks nothing of its job, which is stopped. -/
theorem unsuspended_of_asks (asks : ∃ command ∈ d.onModified (some job), command.AsksToGo job) :
    d.isSuspended = false := by
  cases suspended : d.isSuspended with
  | false => rfl
  | true =>
    obtain ⟨command, member, asked⟩ := asks
    rw [onModified, if_pos suspended] at member
    obtain rfl := List.mem_singleton.1 member
    rcases asked with asked | asked <;> cases asked

/-- Where a modification would ask the job to go, a status is called for. -/
theorem onAdded_of_unsuspended (unsuspended : d.isSuspended = false) (job : Job) :
    ∃ phase, d.onAdded (some job) = [.enterPhase d.reference phase] := by
  simp only [onAdded, unsuspended, Bool.false_eq_true, if_false]
  split
  · exact ⟨_, rfl⟩
  · exact ⟨_, rfl⟩

/-- Of a job that is there nothing is asked. -/
theorem not_asksToGo_of_mem_onAdded :
    ∀ command ∈ d.onAdded (some job), ∀ other, ¬command.AsksToGo other := by
  have status : ∀ phase other, ¬(Command.enterPhase d.reference phase).AsksToGo other := by
    rintro phase other (asked | asked) <;> cases asked
  have stop : ∀ other, ¬(Command.stop job).AsksToGo other := by
    rintro other (asked | asked) <;> cases asked
  rw [onAdded]
  split
  · exact List.forall_mem_singleton.2 (status _)
  · split
    · exact List.forall_mem_singleton.2 stop
    · exact List.forall_mem_singleton.2 (status _)

end Definition

/-- The cluster after a definition was reported as added. -/
def Cluster.afterListed (classes : String → Option StreamClass) (now : String) (d : Definition)
    (k : Cluster) : Cluster :=
  ((Reconciler.stream d.coordinates).perform ⟨api, classes, now⟩ ⟨.added, d.resource⟩ k).2

/-- A definition that is not suspended is written a status at most when it is reported with its job. -/
theorem Cluster.edits_afterListed (classes : String → Option StreamClass) (now : String)
    (found : k.jobOf d = some job) (unsuspended : d.isSuspended = false) : Edits d.reference.key
      (fun r r' => ∃ status version, r' = restated r status version) k
      (k.afterListed classes now d) := by
  rcases (Reconciler.stream d.coordinates).perform_cases (h := ⟨api, classes, now⟩)
    (Reconciler.planStream_reads d.coordinates ⟨.added, d.resource⟩) k with
    same | ⟨commands, planned, led⟩
  · rw [afterListed, same]
    exact .refl k
  · have planned : Reconciler.planStream d.coordinates api ⟨.added, d.resource⟩ k = (.ok commands, k) :=
      planned
    obtain ⟨decided, -⟩ := Reconciler.planStream_ok planned
    have listed : commands = d.onAdded (k.jobOf d) := decided
    obtain ⟨phase, status⟩ := Definition.onAdded_of_unsuspended unsuspended job
    rw [afterListed, led, listed, found, status, Handler.handleAll_singleton]
    exact Handler.updateStatus_edits (h := ⟨api, classes, now⟩) rfl phase _ k

/-! ## Pending work -/

/-- A report that a resource was added neither asks its job to go nor stops it, and what would have been
done on a modification is still to be done afterwards. -/
theorem pending_work_waits :
    (∀ (d : Definition) (job other : Job), ∀ command ∈ d.onAdded (some job),
      ¬command.AsksToGo other) ∧
    (∀ (job : Job) (owner : Option Definition), ∀ command ∈ job.onAdded owner,
      command.isStopJob = false) ∧
    (∀ (classes : String → Option StreamClass) (now : String) (d : Definition) (job : Job) (k : Cluster),
      d.StoredIn k → k.jobOf d = some job → (∃ command ∈ d.onModified (some job), command.AsksToGo job) →
      (k.afterListed classes now d).jobs = k.jobs ∧
      ∃ d', d.Retold d' ∧ d'.StoredIn (k.afterListed classes now d) ∧
        d'.onModified ((k.afterListed classes now d).jobOf d') = d.onModified (some job)) ∧
    (∀ (classes : String → Option StreamClass) (now : String) (job : Job) (k : Cluster),
      (k.afterJobListed classes now job).jobs = k.jobs) := by
  refine ⟨fun d job other command member => Definition.not_asksToGo_of_mem_onAdded command member other,
    fun job owner command member => ?_, fun classes now d job k stored found asks => ?_,
    Cluster.jobs_afterJobListed⟩
  · obtain ⟨untargeted, -⟩ := Job.untargeted_of_mem_onAdded command member
    exact Command.isStopJob_of_untargeted untargeted
  · have unsuspended : d.isSuspended = false := Definition.unsuspended_of_asks asks
    have edits := Cluster.edits_afterListed classes now found unsuspended
    obtain ⟨d', retold, stored'⟩ := edits.exists_retold stored
    refine ⟨edits.jobs, d', retold, stored', ?_⟩
    rw [Cluster.jobOf, edits.jobs, retold.toRewritten.jobKey, ← Cluster.jobOf, found]
    exact retold.onModified_some job

section Orders

/-- The job of the orders is out of date, and after it was reported again the definition asks it to restart
as before. -/
theorem pending_restart_waits : ∃ d',
    (Orders.definition "1" none).Retold d' ∧
    d'.onModified ((Orders.atRest.cluster.afterListed (fun _ => some Orders.streamClass) ""
      (Orders.definition "1" none)).jobOf d') = [.requestRestart (Orders.job "2" none [])] := by
  have decided : (Orders.definition "1" none).onModified (some (Orders.job "2" none []))
      = [.requestRestart (Orders.job "2" none [])] := by decide +kernel
  have asks : ∃ command ∈ (Orders.definition "1" none).onModified (some (Orders.job "2" none [])),
      command.AsksToGo (Orders.job "2" none []) := by
    rw [decided]
    exact ⟨_, List.mem_singleton_self _, .inl rfl⟩
  obtain ⟨-, d', retold, -, again⟩ := pending_work_waits.2.2.1 (fun _ => some Orders.streamClass) ""
    (Orders.definition "1" none) (Orders.job "2" none []) Orders.atRest.cluster rfl rfl asks
  exact ⟨d', retold, again.trans decided⟩

/-- A modification asks an outdated job to restart and stops one that was asked to; a report of the same
definition or job as added does neither. -/
theorem pending_restart_is_not_resumed :
    (Orders.definition "1" none).onModified (some (Orders.job "2" none []))
      = [.requestRestart (Orders.job "2" none [])] ∧
    (∀ command ∈ (Orders.definition "1" none).onAdded (some (Orders.job "2" none [])),
      ¬command.AsksToGo (Orders.job "2" none [])) ∧
    (Orders.job "2" (some .restartRequested) []).onModified
      = [.stop (Orders.job "2" (some .restartRequested) [])] ∧
    Command.stop (Orders.job "2" (some .restartRequested) [])
      ∉ (Orders.job "2" (some .restartRequested) []).onAdded (some (Orders.definition "1" none)) := by
  refine ⟨by decide +kernel, fun command member => ?_, by decide +kernel, by decide +kernel⟩
  exact Definition.not_asksToGo_of_mem_onAdded command member _

end Orders

end StreamOperator
