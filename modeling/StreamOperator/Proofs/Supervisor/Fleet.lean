import StreamOperator.Proofs.Handler.Owners
import StreamOperator.Proofs.Reconcile.Steps
import StreamOperator.Proofs.Supervisor.Origins

/-!
# Fleets

A fleet is a session of a supervisor together with the run of the jobs, so it is all that works on one
cluster: the pipelines of any number of kinds, the call under way and the reconciler of the jobs take
their steps in any order. Somebody else may change the cluster between any two of them, as long as every
job stands under the name of the owner it records. A fleet keeps it that way (`Fleet.Reachable.owned`).
-/

set_option autoImplicit false

namespace StreamOperator

/-! ## Runs and the jobs of the cluster -/

/-- A run processes the events of jobs, and each of its commands is for one job at most. -/
structure Run.FollowsJobs (r : Run Job) : Prop where
  reconciler : r.reconciler = Reconciler.job
  feed : r.feed = Feed.jobs
  concerned : ∀ command ∈ r.stage.commands, ∃ key, command.Concerns key

theorem Run.ofJobs_followsJobs (capacity dedupCapacity : Nat) :
    (Run.ofJobs capacity dedupCapacity).FollowsJobs :=
  ⟨rfl, rfl, fun _ left => by cases left⟩

theorem Run.FollowsJobs.step {r r' : Run Job} {h : Handler Cluster} {cancelled : Bool}
    {k k' : Cluster} (follows : r.FollowsJobs) (inMemory : h.api = Cluster.api)
    (taken : r.step h cancelled k = some (r', k')) : r'.FollowsJobs := by
  obtain ⟨⟨reconciler, feed⟩, went⟩ := Run.went_of_step taken
  refine ⟨reconciler.trans follows.reconciler, feed.trans follows.feed, ?_⟩
  intro command left
  rcases went.commands left with before | ⟨ticket, event, commands, k'', -, planned, member⟩
  · exact follows.concerned command before
  · rw [follows.reconciler, inMemory] at planned
    obtain ⟨owner, rfl⟩ := Reconciler.planJob_yields event _ _ _ planned
    exact ⟨event.resource.key, Job.concerns_of_mem_react command member⟩

theorem Run.FollowsJobs.leavesJobs {r : Run Job} (follows : r.FollowsJobs) : r.Leaves Cluster.jobs where
  subscribe k := by rw [follows.feed]; rfl
  take ticket k := by rw [follows.feed]; rfl
  leave ticket k := by rw [follows.feed]; rfl
  plan event := by rw [follows.reconciler]; exact Reconciler.planJob_reads event

/-- The run of a class opens and reads subscriptions, and leaves jobs and resources to its commands, and
which operations fail as it is. -/
theorem Run.Serves.leaves {r : Run Resource} {c : StreamClass} (serves : r.Serves c) :
    r.Leaves fun k => (k.jobs, k.resources, k.failing) where
  subscribe k := by
    rw [serves.feed]
    show (fun k : Cluster => (k.jobs, k.resources, k.failing))
      (Cluster.watchResources c.target r.capacity k).2 = _
    unfold Cluster.watchResources
    rw [Act.bind_ok (Act.get_apply k)]
    split <;> rfl
  take ticket k := by rw [serves.feed]; rfl
  leave ticket k := by rw [serves.feed]; rfl
  plan event := by rw [serves.reconciler]; exact Reconciler.planStream_reads c.target event

theorem Run.Serves.leavesJobs {r : Run Resource} {c : StreamClass} (serves : r.Serves c) :
    r.Leaves Cluster.jobs := serves.leaves.map Prod.fst

theorem Run.Serves.leavesResources {r : Run Resource} {c : StreamClass} (serves : r.Serves c) :
    r.Leaves Cluster.resources := serves.leaves.map fun part => part.2.1

theorem Run.Serves.leavesFailing {r : Run Resource} {c : StreamClass} (serves : r.Serves c) :
    r.Leaves Cluster.failing := serves.leaves.map fun part => part.2.2

/-- Each command of a stream's run is for one job at most. -/
theorem Run.Serves.concerned {r : Run Resource} {c : StreamClass} (serves : r.Serves c) :
    ∀ command ∈ r.stage.commands, ∃ key, command.Concerns key := by
  intro command left
  obtain ⟨event, found, member⟩ := serves.decided command left
  cases found with
  | none =>
    refine ⟨(event.definition c.target).jobKey, Definition.concerns_of_mem_react ?_ command member⟩
    intro job stored
    cases stored
  | some job =>
    refine ⟨job.key, Definition.concerns_of_mem_react ?_ command member⟩
    intro job' stored
    rw [Option.some.inj stored]

/-- A run whose commands are for one job each keeps the jobs under their owners' names. -/
theorem Run.step_owned {α : Type} {r r' : Run α} {h : Handler Cluster} {cancelled : Bool}
    {k k' : Cluster} (leaves : r.Leaves Cluster.jobs) (inMemory : h.api = Cluster.api)
    (concerned : ∀ command ∈ r.stage.commands, ∃ key, command.Concerns key)
    (taken : r.step h cancelled k = some (r', k')) (owned : k.Owned) : k'.Owned := by
  rcases (Run.went_of_step taken).2.kept_or_handled leaves inMemory with
    same | ⟨ticket, command, rest, executing, changed⟩
  · exact owned.of_jobs same
  · rw [executing] at concerned
    obtain ⟨key, concerns⟩ := concerned command List.mem_cons_self
    exact (Handler.handle_owned inMemory concerns owned).of_jobs changed

/-! ## Supervisors and the jobs of the cluster -/

/-- A step of writing the status of a class leaves the jobs alone. -/
theorem StatusWrite.jobs_of_step {w : StatusWrite} {h : Handler Cluster} {c : StreamClass}
    {report : ClassReport} {next : Option StatusWrite} {k k' : Cluster}
    (inMemory : h.api = Cluster.api) (taken : w.step h c report k = (next, k')) : k'.jobs = k.jobs := by
  cases w with
  | reading =>
    have reads := Handler.prepareClassStatus_reads inMemory c.reference report.phase
      (report.phase.conditions report.reason report.message) k
    unfold step at taken
    dsimp only at taken
    split at taken <;> rename_i prepared <;> cases taken <;> rw [prepared] at reads <;>
      exact congrArg Cluster.jobs reads
  | writing status =>
    obtain ⟨-, rfl⟩ := Prod.mk.inj taken
    unfold Handler.commitClassStatus
    rw [inMemory]
    exact (Cluster.patchStatus_edits status k).jobs

namespace Supervisor

variable {s s' t : Supervisor} {p : Pipeline} {c : StreamClass} {k k' : Cluster} {now : String}

/-- A pipeline changes the jobs by the steps of its run only. -/
theorem advance_owned {clock : Nat} {stage : PipelineStage} (orderly : p.Orderly s)
    (taken : s.advance now clock p k = some (stage, s', k')) (owned : k.Owned) : k'.Owned := by
  have step := pipelineStep_of_advance taken
  generalize standing : p.stage = before at step
  cases step with
  | announcing written | announced written | reporting written | reported written =>
    exact owned.of_jobs (StatusWrite.jobs_of_step rfl written)
  | runs unended went =>
    have serves := orderly.serves standing
    exact Run.step_owned serves.leavesJobs rfl serves.concerned went owned
  | _ => exact owned

theorem stepPipeline_owned {clock n : Nat} (tidy : s.Tidy)
    (orderly : ∀ {n p}, s.pipeline? n = some p → p.Orderly s)
    (taken : s.stepPipeline now clock n k = some (t, k')) (owned : k.Owned) : k'.Owned := by
  obtain ⟨p, stage, s', found, -, advanced, -, -⟩ := advance_of_stepPipeline tidy taken
  exact advance_owned (orderly found) advanced owned

/-- A call writes the statuses of classes and nothing else. -/
theorem stepCall_jobs {call next : Call} (taken : s.stepCall now call k = some (next, t, k')) :
    k'.jobs = k.jobs := by
  cases callStep_of_stepCall taken with
  | attach moved =>
    cases moved with
    | refusing written | failed written | announcing written | succeeded written =>
      exact StatusWrite.jobs_of_step rfl written
    | _ => rfl
  | detach moved => cases moved <;> rfl
  | stop moved =>
    cases moved with
    | reporting written | reported written => exact StatusWrite.jobs_of_step rfl written
    | _ => rfl

end Supervisor

/-! ## Fleets -/

structure Fleet extends Session where
  /-- The run of the jobs. -/
  jobs : Run Job

namespace Fleet

/-- One step of a fleet, at any time of the clock. -/
inductive Step : Fleet → Fleet → Prop where
  | pipeline {w : Fleet} {now : String} {clock seq : Nat} {s : Supervisor} {k : Cluster}
      (taken : w.supervisor.stepPipeline now clock seq w.cluster = some (s, k)) :
      Step w { w with supervisor := s, cluster := k }
  | call {w : Fleet} {now : String} {call next : Call} {s : Supervisor} {k : Cluster}
      (current : w.call = some call)
      (taken : w.supervisor.stepCall now call w.cluster = some (next, s, k)) :
      Step w { w with supervisor := s, call := some next, cluster := k }
  | begin {w : Fleet} {call : Call} (idle : w.IsIdle) (fresh : call.IsFresh) :
      Step w { w with call := some call }
  | cancel {w : Fleet} : Step w { w with supervisor := w.supervisor.cancelAll }
  | jobs {w : Fleet} {now : String} {r : Run Job} {k : Cluster}
      (taken : w.jobs.step (w.supervisor.handler now) w.supervisor.stopped w.cluster = some (r, k)) :
      Step w { w with jobs := r, cluster := k }
  /-- The run of the jobs is started again. -/
  | restart {w : Fleet} : Step w { w with jobs := w.jobs.restart }
  /-- Somebody else changes the cluster and keeps the jobs under their owners' names. -/
  | elsewhere {w : Fleet} (k : Cluster) (owned : k.Owned) : Step w { w with cluster := k }

/-- The fleet after any number of steps. -/
abbrev Reaches : Fleet → Fleet → Prop := Relation.ReflTransGen Step

/-- A fleet that has not done anything yet. -/
def Initial (w : Fleet) : Prop :=
  w.toSession.Initial ∧ (∃ capacity dedup, w.jobs = .ofJobs capacity dedup) ∧ w.cluster.Owned

def Reachable (w : Fleet) : Prop := ∃ start, Initial start ∧ Reaches start w

variable {w v : Fleet}

theorem Reachable.reaches (reachable : w.Reachable) (run : Reaches w v) : v.Reachable := by
  obtain ⟨start, initial, before⟩ := reachable
  exact ⟨start, initial, before.trans run⟩

/-- To the session of a supervisor the run of the jobs is somebody else. -/
theorem Step.session (step : Step w v) : Session.Reaches w.toSession v.toSession := by
  cases step with
  | pipeline taken => exact .single (.pipeline taken)
  | call current taken => exact .single (.call current taken)
  | begin idle fresh => exact .single (.begin idle fresh)
  | cancel => exact .single .cancel
  | jobs | elsewhere => exact .single (.elsewhere _)
  | restart => exact .refl

theorem Reachable.session (reachable : w.Reachable) : w.toSession.Reachable := by
  obtain ⟨start, initial, run⟩ := reachable
  induction run with
  | refl => exact ⟨_, initial.1, .refl⟩
  | tail before last ih => exact ih.reaches last.session

/-- What a fleet keeps: the jobs of the cluster stand under their owners' names, and the run of the jobs
has commands that leave them there. -/
structure Orderly (w : Fleet) : Prop where
  owned : w.cluster.Owned
  jobs : w.jobs.FollowsJobs

theorem Orderly.step (orderly : w.Orderly) (reachable : w.toSession.Reachable) (step : Step w v) :
    v.Orderly := by
  cases step with
  | pipeline taken =>
    refine ⟨?_, orderly.jobs⟩
    exact Supervisor.stepPipeline_owned reachable.sound.tidy reachable.orderly taken orderly.owned
  | call current taken =>
    exact ⟨orderly.owned.of_jobs (Supervisor.stepCall_jobs taken), orderly.jobs⟩
  | begin | cancel => exact ⟨orderly.owned, orderly.jobs⟩
  | jobs taken =>
    have follows := orderly.jobs
    refine ⟨?_, follows.step rfl taken⟩
    exact Run.step_owned follows.leavesJobs rfl follows.concerned taken orderly.owned
  | restart =>
    refine ⟨orderly.owned, orderly.jobs.reconciler, orderly.jobs.feed, ?_⟩
    intro command left
    cases left
  | elsewhere k owned => exact ⟨owned, orderly.jobs⟩

theorem Reachable.orderly (reachable : w.Reachable) : w.Orderly := by
  obtain ⟨start, initial, run⟩ := reachable
  induction run with
  | refl =>
    obtain ⟨-, ⟨capacity, dedup, new⟩, owned⟩ := initial
    exact ⟨owned, new ▸ Run.ofJobs_followsJobs capacity dedup⟩
  | tail before last ih => exact ih.step (Reachable.session ⟨_, initial, before⟩) last

/-- The jobs that the operator starts and annotates stand under the names of their owners. -/
theorem Reachable.owned (reachable : w.Reachable) : w.cluster.Owned := reachable.orderly.owned

end Fleet

end StreamOperator
