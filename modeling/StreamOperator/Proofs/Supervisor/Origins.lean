import StreamOperator.Proofs.Reconcile.Runs
import StreamOperator.Proofs.Supervisor.Absence

/-!
# Where pipelines come from

A pipeline that is there after a step of a session was there before, has just gone on, or has just been
started (`Step.origin`). What holds of all pipelines is proved by these three cases. The first use is
`Pipeline.Orderly`: a pipeline runs the reconciler of its own class, and every command it has yet to
carry out was decided on an event of the class's definitions.
-/

set_option autoImplicit false

namespace StreamOperator

namespace Supervisor

variable {s t : Supervisor} {p q : Pipeline} {n m : Nat} {k k' : Cluster}

@[simp] theorem registry_setPipeline : (s.setPipeline p).registry = s.registry := rfl

@[simp] theorem registry_spawn (c : StreamClass) (restarted : Bool) :
    (s.spawn c restarted).registry = s.registry := rfl

@[simp] theorem registry_cancel : (s.cancel m).registry = s.registry := by
  unfold cancel
  split <;> rfl

theorem registry_revoke {id : String} {handle : Handle} :
    (s.revoke id handle).registry = s.registry := registry_cancel

theorem registry_awaitFirst (handles : List Handle) :
    (s.awaitFirst handles).2.registry = s.registry := by
  cases handles with
  | nil => rfl
  | cons first rest => exact registry_cancel

@[simp] theorem dedupCapacity_spawn (c : StreamClass) (restarted : Bool) :
    (s.spawn c restarted).dedupCapacity = s.dedupCapacity := rfl

/-- A step of a pipeline is an advance of it, with which it may be replaced by a new one. -/
theorem advance_of_stepPipeline {now : String} {clock : Nat} (tidy : s.Tidy)
    (taken : s.stepPipeline now clock m k = some (t, k')) :
    ∃ p stage s', s.pipeline? m = some p ∧ p.seq = m ∧
      s.advance now clock p k = some (stage, s', k') ∧ t = s'.setPipeline { p with stage := stage } ∧
      (s' = s ∨ stage = .finished ∧ s.stopped = false ∧ s' = s.spawn p.streamClass true ∧
        ∃ handle, Table.get? p.streamClass.id s.handles = some handle ∧ handle.seq = m) := by
  obtain ⟨p, found, taken⟩ := Option.bind_eq_some_iff.1 taken
  obtain ⟨⟨stage, s', k''⟩, advanced, same⟩ := Option.map_eq_some_iff.1 taken
  obtain ⟨rfl, rfl⟩ : s'.setPipeline { p with stage := stage } = t ∧ k'' = k' := by simpa using same
  obtain rfl : p.seq = m := tidy.seq_eq found
  refine ⟨p, stage, s', found, rfl, advanced, rfl, ?_⟩
  rcases advance_cases advanced with same | ⟨finished, replaced⟩
  · exact .inl same
  · rcases restart_cases s p with unchanged | ⟨running, spawned, own⟩
    · exact .inl (replaced.trans unchanged)
    · exact .inr ⟨finished, running, replaced.trans spawned, own⟩

theorem registry_of_stepPipeline {now : String} {clock : Nat} (tidy : s.Tidy)
    (taken : s.stepPipeline now clock m k = some (t, k')) : t.registry = s.registry := by
  obtain ⟨p, stage, s', -, -, -, rfl, standing⟩ := advance_of_stepPipeline tidy taken
  rcases standing with rfl | ⟨-, -, rfl, -⟩ <;> rfl

/-- Where a pipeline of a supervisor comes from: it was there, it has gone on, or it is new. -/
inductive Origin (s : Supervisor) (k : Cluster) (n : Nat) (q : Pipeline) : Prop where
  | kept {p : Pipeline} (found : s.pipeline? n = some p) (stage : q.stage = p.stage)
      (same : q.streamClass = p.streamClass) (told : p.cancelled = true → q.cancelled = true)
  | advanced {p : Pipeline} {stage : PipelineStage} {now : String} {clock : Nat} {s' : Supervisor}
      {k' : Cluster} (found : s.pipeline? n = some p)
      (taken : s.advance now clock p k = some (stage, s', k'))
      (written : q = { p with stage := stage })
  | started {restarted : Bool} (number : n = s.nextSeq) (stage : q.stage = .starting restarted)

theorem Origin.refl (found : s.pipeline? n = some q) : s.Origin k n q :=
  .kept found rfl rfl fun told => told

/-- Telling a pipeline to stop keeps all pipelines, whatever else has changed. -/
theorem Origin.cancel (tidy : t.Tidy) (same : ∀ n, t.pipeline? n = s.pipeline? n)
    (found : (t.cancel m).pipeline? n = some q) : s.Origin k n q := by
  rw [pipeline?_cancel tidy] at found
  split at found
  · rename_i own
    subst own
    obtain ⟨p, hp, rfl⟩ := Option.map_eq_some_iff.1 found
    exact .kept ((same n).symm.trans hp) rfl rfl fun _ => rfl
  · exact .refl ((same n).symm.trans found)

theorem Origin.revoke (tidy : s.Tidy) {id : String} {handle : Handle}
    (found : (s.revoke id handle).pipeline? n = some q) : s.Origin k n q :=
  .cancel (tidy.withHandles (Table.erase id s.handles)) (fun _ => rfl) found

theorem Origin.spawn {c : StreamClass} {restarted : Bool}
    (found : (s.spawn c restarted).pipeline? n = some q) : s.Origin k n q := by
  rw [pipeline?_spawn] at found
  split at found
  · rename_i number
    obtain rfl := Option.some.inj found
    exact .started number rfl
  · exact .refl found

theorem Origin.awaitFirst (tidy : t.Tidy) (same : ∀ n, t.pipeline? n = s.pipeline? n)
    {handles : List Handle} (found : (t.awaitFirst handles).2.pipeline? n = some q) :
    s.Origin k n q := by
  cases handles with
  | nil => exact .refl ((same n).symm.trans found)
  | cons first rest => exact .cancel tidy same found

theorem Origin.install {c : StreamClass} (unhandled : Table.get? c.id s.handles = none)
    (found : (s.install c).pipeline? n = some q) : s.Origin k n q := by
  have spawned : s.install c = s.spawn c false := by simp [Supervisor.install, unhandled]
  rw [spawned] at found
  exact .spawn found

theorem stepPipeline_origin {now : String} {clock : Nat} (tidy : s.Tidy)
    (taken : s.stepPipeline now clock m k = some (t, k')) (found : t.pipeline? n = some q) :
    s.Origin k n q := by
  obtain ⟨p, stage, s', stood, rfl, advanced, rfl, standing⟩ := advance_of_stepPipeline tidy taken
  rw [pipeline?_setPipeline] at found
  split at found
  · rename_i own
    split at found
    · cases found
    · obtain rfl := Option.some.inj found
      exact .advanced (own ▸ stood) advanced rfl
  · rcases standing with rfl | ⟨-, -, rfl, -⟩
    · exact .refl found
    · exact .spawn found

end Supervisor

namespace Session

variable {w v : Session} {n : Nat} {q : Pipeline}

theorem Step.origin (sound : w.Sound) (step : Step w v) (found : v.supervisor.pipeline? n = some q) :
    w.supervisor.Origin w.cluster n q := by
  cases step with
  | pipeline taken => exact Supervisor.stepPipeline_origin sound.tidy taken found
  | call current taken =>
    cases Supervisor.callStep_of_stepCall taken with
    | attach moved =>
      cases moved with
      | claimed => exact .revoke sound.tidy found
      | spawned => exact .install (sound.claimed current rfl) found
      | _ => exact .refl found
    | detach moved =>
      cases moved with
      | claimed => exact .revoke sound.tidy found
      | _ => exact .refl found
    | stop moved =>
      cases moved with
      | drained => exact .awaitFirst (sound.tidy.withHandles []) (fun _ => rfl) found
      | reported => exact .awaitFirst sound.tidy (fun _ => rfl) found
      | _ => exact .refl found
  | begin | cancel | elsewhere => exact .refl found

/-- A supervisor that was told to stop stays so. -/
theorem Step.stopped (sound : w.Sound) (step : Step w v) (stopped : w.supervisor.stopped = true) :
    v.supervisor.stopped = true := by
  cases step with
  | pipeline taken =>
    rcases Supervisor.stepPipeline_cases sound.tidy taken with
      ⟨-, -, same, -⟩ | ⟨-, -, -, running, -⟩
    · rw [same, stopped]
    · rw [stopped] at running
      cases running
  | call current taken =>
    have moved := Supervisor.callStep_of_stepCall taken
    rcases moved.narrows_or sound.tidy with narrows | ⟨c, rfl, rfl, rfl⟩
    · exact narrows.stopped stopped
    · have unhandled : Table.get? c.id w.supervisor.handles = none := sound.claimed current rfl
      have spawned : w.supervisor.install c = w.supervisor.spawn c false := by
        simp [Supervisor.install, unhandled]
      rw [spawned]
      exact stopped
  | cancel => rfl
  | begin | elsewhere => exact stopped

end Session

/-! ## Pipelines run the reconciler of their class -/

/-- A run processes the definitions of a class, and its commands were decided on their events. -/
structure Run.Serves (r : Run Resource) (c : StreamClass) : Prop where
  reconciler : r.reconciler = Reconciler.stream c.target
  feed : r.feed = Feed.resources c.target
  decided : ∀ command ∈ r.stage.commands, ∃ (event : Event Resource) (found : Option Job),
    command ∈ (event.definition c.target).react event.type found

theorem Run.ofClass_serves (c : StreamClass) (capacity : Nat) : (Run.ofClass c capacity).Serves c :=
  ⟨rfl, rfl, fun _ left => by cases left⟩

/-- The commands of a stream reconciler are a decision on its event. -/
theorem Reconciler.planStream_yields (c : Coordinates) (api : ClusterApi Cluster)
    (event : Event Resource) : (Reconciler.planStream c api event).Yields fun commands =>
      ∀ command ∈ commands, ∃ found, command ∈ (event.definition c).react event.type found := by
  unfold planStream
  split
  · intro s s' commands planned
    obtain rfl := Except.ok.inj (Prod.mk.inj planned).1
    intro command member
    cases member
  · refine .bind fun found s s' commands planned => ?_
    obtain rfl := Except.ok.inj (Prod.mk.inj planned).1
    exact fun command member => ⟨found, member⟩

theorem Run.Serves.step {r r' : Run Resource} {c : StreamClass} {h : Handler Cluster}
    {cancelled : Bool} {k k' : Cluster} (serves : r.Serves c)
    (taken : r.step h cancelled k = some (r', k')) : r'.Serves c := by
  obtain ⟨⟨reconciler, feed⟩, went⟩ := Run.went_of_step taken
  refine ⟨reconciler.trans serves.reconciler, feed.trans serves.feed, ?_⟩
  intro command left
  rcases went.commands left with before | ⟨ticket, event, commands, k'', -, planned, member⟩
  · exact serves.decided command before
  · rw [serves.reconciler] at planned
    exact ⟨event, Reconciler.planStream_yields c.target h.api event _ _ _ planned command member⟩

/-- A pipeline runs the reconciler of its class, and the run ends well only when the pipeline was told
to stop. -/
structure Pipeline.Orderly (s : Supervisor) (p : Pipeline) : Prop where
  serves : ∀ {run}, p.stage = .running run → run.Serves p.streamClass
  told : ∀ {run}, p.stage = .running run → run.stage = .ended (.ok ()) → s.isCancelled p = true

namespace Supervisor

variable {s s' t : Supervisor} {p q : Pipeline} {k k' : Cluster} {n : Nat}

/-- The stage after an advance is that of an orderly pipeline. -/
theorem advance_orderly {now : String} {clock : Nat} {stage : PipelineStage} (orderly : p.Orderly s)
    (taken : s.advance now clock p k = some (stage, s', k')) :
    Pipeline.Orderly s { p with stage := stage } := by
  -- Only a run matters: it has just been made, or it has gone on.
  suffices ∀ run, stage = .running run → run.Serves p.streamClass ∧
      (run.stage = .ended (.ok ()) → s.isCancelled p = true) from
    ⟨fun running => (this _ running).1, fun running => (this _ running).2⟩
  have fresh : (Run.ofClass p.streamClass s.dedupCapacity).Serves p.streamClass ∧
      ((Run.ofClass p.streamClass s.dedupCapacity).stage = .ended (.ok ()) → s.isCancelled p = true) :=
    ⟨Run.ofClass_serves _ _, fun ended => by cases ended⟩
  intro run running
  have step := pipelineStep_of_advance taken
  generalize standing : p.stage = before at step
  cases step with
  | starts | announced =>
    cases running
    exact fresh
  | runs unended went =>
    cases running
    exact ⟨(orderly.serves standing).step went, (Run.went_of_step went).2.told⟩
  | _ => cases running

/-- A pipeline that nobody told to stop ends only when it is about to be replaced. -/
theorem restarting_of_advance_finished {now : String} {clock : Nat} (orderly : p.Orderly s)
    (active : s.isCancelled p = false)
    (taken : s.advance now clock p k = some (.finished, s', k')) : p.stage = .restarting := by
  have step := pipelineStep_of_advance taken
  generalize standing : p.stage = before at step
  cases step with
  | replaced => rfl
  | completed ended =>
    have told := orderly.told standing (Run.result?_eq_some_iff.1 ended)
    rw [active] at told
    cases told
  | dropped ended told | left told =>
    rw [active] at told
    cases told

/-- Orderly pipelines come from orderly pipelines. -/
theorem Origin.orderly (origin : s.Origin k n q)
    (before : ∀ {n p}, s.pipeline? n = some p → p.Orderly s)
    (stopped : s.stopped = true → t.stopped = true) : q.Orderly t := by
  have later : ∀ {p : Pipeline}, (p.cancelled = true → q.cancelled = true) →
      s.isCancelled p = true → t.isCancelled q = true := by
    intro p told before
    rcases Bool.or_eq_true_iff.1 before with before | before
    · simp [isCancelled, stopped before]
    · simp [isCancelled, told before]
  cases origin with
  | kept found stage same told =>
    have orderly := before found
    refine ⟨fun running => ?_, fun running ended => ?_⟩
    · rw [same]
      exact orderly.serves (stage ▸ running)
    · exact later told (orderly.told (stage ▸ running) ended)
  | advanced found taken written =>
    subst written
    have orderly := advance_orderly (before found) taken
    exact ⟨orderly.serves, fun running ended => later id (orderly.told running ended)⟩
  | started _ stage =>
    constructor <;> intro run running <;> rw [stage] at running <;> cases running

end Supervisor

namespace Session

variable {w v : Session} {n : Nat} {p : Pipeline}

/-- No pipeline is there before the first step. -/
theorem Initial.pipeline?_eq_none (h : w.Initial) (n : Nat) : w.supervisor.pipeline? n = none := by
  obtain ⟨-, classes, dedup, delay, buffer, new⟩ := h
  rw [new]
  rfl

/-- All pipelines of a session that can be reached are orderly. -/
theorem Reachable.orderly (reachable : w.Reachable) (found : w.supervisor.pipeline? n = some p) :
    p.Orderly w.supervisor := by
  have all : ∀ n p, w.supervisor.pipeline? n = some p → p.Orderly w.supervisor := by
    apply reachable.invariant (P := fun w => ∀ n p, w.supervisor.pipeline? n = some p →
      p.Orderly w.supervisor)
    · intro w initial n p found
      rw [initial.pipeline?_eq_none] at found
      cases found
    · intro w v before ih step n p found
      exact (step.origin before.sound found).orderly (fun found => ih _ _ found)
        (step.stopped before.sound)
  exact all n p found

end Session

end StreamOperator
