import StreamOperator.Proofs.Supervisor.ClassEvents

/-!
# How calls and pipelines go on

A pipeline that was told to stop can end by its own steps, whatever it is about: it carries out what it
has decided for the event in hand, or writes the report in hand, and takes no other event
(`Supervisor.canEnd`). How far it has to go depends on the commands that are left, so the proof goes
through the stages from the last one to the first. A call waits for nothing but such an end; the runs of
its own steps, from one wait to the next, are given here (`Session.Goes`).
-/

set_option autoImplicit false

namespace StreamOperator

/-- A status is written in two steps at most. -/
theorem StatusWrite.step_cases (h : Handler Cluster) (c : StreamClass) (report : ClassReport)
    (k : Cluster) : (∃ k', reading.step h c report k = (none, k')) ∨
      ∃ status k', reading.step h c report k = (some (writing status), k') := by
  unfold step
  rcases h.prepareClassStatus c.reference report.phase
    (report.phase.conditions report.reason report.message) k with ⟨e | prepared, k'⟩
  · exact .inl ⟨k', rfl⟩
  · cases prepared with
    | none => exact .inl ⟨k', rfl⟩
    | some status => exact .inr ⟨status, k', rfl⟩

namespace Supervisor

variable {s t u : Supervisor} {p : Pipeline} {k k' k'' : Cluster} {n : Nat} {stage : PipelineStage}

theorem stepPipeline_of_advance {now : String} {clock : Nat}
    (found : s.pipeline? n = some p) (advanced : s.advance now clock p k = some (stage, s, k')) :
    s.stepPipeline now clock n k = some (s.setPipeline { p with stage := stage }, k') := by
  simp [stepPipeline, found, advanced]

/-- A run that has ended ends its pipeline, if that was told to stop. -/
theorem advance_of_ended {run : Run Resource} {result : Except Failure Unit} {now : String}
    {clock : Nat} (told : s.isCancelled p = true) (running : p.stage = .running run)
    (ended : run.stage = .ended result) : s.advance now clock p k = some (.finished, s, k) := by
  cases result <;> simp [advance, running, Run.result?, ended, told]

/-- A run goes on with its pipeline. -/
theorem advance_of_step {run run' : Run Resource} {now : String} {clock : Nat}
    (running : p.stage = .running run) (unended : run.result? = none)
    (taken : run.step (s.handler now) (s.isCancelled p) k = some (run', k')) :
    s.advance now clock p k = some (.running run', s, k') := by
  simp [advance, running, unended, taken]

theorem pipeline?_setPipeline_self (unfinished : p.isFinished = false) :
    (s.setPipeline p).pipeline? p.seq = some p := by
  rw [pipeline?_setPipeline, if_pos rfl, if_neg (by simp [unfinished])]

/-- Steps of one pipeline. -/
inductive Drives (n : Nat) : Supervisor → Cluster → Supervisor → Cluster → Prop where
  | refl {s : Supervisor} {k : Cluster} : Drives n s k s k
  | head {s t u : Supervisor} {k k' k'' : Cluster} {now : String} {clock : Nat}
      (taken : s.stepPipeline now clock n k = some (t, k')) (rest : Drives n t k' u k'') :
      Drives n s k u k''

/-- The pipeline with a number can end by its own steps. -/
def CanEnd (s : Supervisor) (k : Cluster) (n : Nat) : Prop :=
  ∃ t k', Drives n s k t k' ∧ t.pipeline? n = none

theorem CanEnd.head {now : String} {clock : Nat} (canEnd : t.CanEnd k' n)
    (taken : s.stepPipeline now clock n k = some (t, k')) : s.CanEnd k n := by
  obtain ⟨u, k'', drives, ended⟩ := canEnd
  exact ⟨u, k'', .head taken drives, ended⟩

/-- A pipeline that has ended is gone. -/
theorem canEnd_of_finished (finished : p.isFinished = true) : (s.setPipeline p).CanEnd k p.seq :=
  ⟨_, k, .refl, by rw [pipeline?_setPipeline, if_pos rfl, if_pos finished]⟩

end Supervisor

/-! ## From stage to stage -/

namespace Pipeline

variable {p : Pipeline} {stage next : PipelineStage} {run : Run Resource} {ticket : Nat}

/-- From the stage a pipeline that was told to stop can end. -/
def Ends (p : Pipeline) (stage : PipelineStage) : Prop :=
  ∀ (s : Supervisor) (k : Cluster), s.isCancelled p = true →
    s.pipeline? p.seq = some { p with stage := stage } →
    isFinished { p with stage := stage } = false → s.CanEnd k p.seq

theorem ends_finished : p.Ends .finished := by
  intro s k _ _ unfinished
  cases unfinished

/-- The pipeline goes on to a stage from which it can end. -/
theorem Ends.of_advance (goes : ∀ (s : Supervisor) (k : Cluster), s.isCancelled p = true →
    ∃ next k', s.advance "" 0 { p with stage := stage } k = some (next, s, k') ∧ p.Ends next) :
    p.Ends stage := by
  intro s k told found _
  obtain ⟨next, k', advanced, ends⟩ := goes s k told
  refine Supervisor.CanEnd.head ?_ (Supervisor.stepPipeline_of_advance found advanced)
  cases finished : isFinished { p with stage := next } with
  | true => exact Supervisor.canEnd_of_finished finished
  | false => exact ends _ k' told (Supervisor.pipeline?_setPipeline_self finished) finished

/-! ## The run of a pipeline -/

/-- The run goes on to one from which the pipeline can end. -/
theorem Ends.of_run (unended : run.result? = none) (goes : ∀ (h : Handler Cluster) (k : Cluster),
    ∃ run' k', run.step h true k = some (run', k') ∧ p.Ends (.running run')) :
    p.Ends (.running run) := by
  refine .of_advance fun s k told => ?_
  obtain ⟨run', k', taken, ends⟩ := goes (s.handler "") k
  have told' : s.isCancelled { p with stage := .running run } = true := told
  refine ⟨.running run', k', ?_, ends⟩
  exact Supervisor.advance_of_step rfl unended (told' ▸ taken)

theorem ends_of_ended {result : Except Failure Unit} (ended : run.stage = .ended result) :
    p.Ends (.running run) :=
  .of_advance fun _ k told => ⟨_, k, Supervisor.advance_of_ended told rfl ended, ends_finished⟩

theorem ends_of_idle (idle : run.stage = .idle ticket) : p.Ends (.running run) := by
  refine .of_run (by simp [Run.result?, idle]) fun h k => ?_
  refine ⟨{ run with stage := .ended (.ok ()) }, run.feed.leave ticket k, ?_, ends_of_ended rfl⟩
  simp [Run.step, idle]

/-- After an event the run waits for the next one or has ended. -/
theorem ends_afterItem (run : Run Resource) (ticket : Nat) (result : Except Failure Unit) (k : Cluster) :
    p.Ends (.running (run.afterItem ticket result k).1) := by
  unfold Run.afterItem
  split
  · exact ends_of_ended rfl
  · exact ends_of_idle rfl

/-- The commands that are left are carried out one after another. -/
theorem ends_of_executing {commands : List Command} (executing : run.stage = .executing ticket commands) :
    p.Ends (.running run) := by
  induction commands generalizing run with
  | nil =>
    refine .of_run (by simp [Run.result?, executing]) fun h k => ?_
    refine ⟨{ run with stage := .idle ticket }, k, ?_, ends_of_idle rfl⟩
    simp only [Run.step, executing]
  | cons command rest ih =>
    refine .of_run (by simp [Run.result?, executing]) fun h k => ?_
    rcases handled : h.handle command k with ⟨e | ⟨⟩, k'⟩
    · refine ⟨_, (run.afterItem ticket (.error e) k').2, ?_, ends_afterItem run ticket (.error e) k'⟩
      simp only [Run.step, executing, handled]
    · refine ⟨{ run with stage := .executing ticket rest }, k', ?_, ih rfl⟩
      simp only [Run.step, executing, handled]

theorem ends_of_received {event : Event Resource} (received : run.stage = .received ticket event) :
    p.Ends (.running run) := by
  refine .of_run (by simp [Run.result?, received]) fun h k => ?_
  rcases filtered : run.dedup.filter 0 run.reconciler.kind (run.reconciler.metadata event.resource)
    with ⟨passes, dedup⟩
  cases passes with
  | false =>
    refine ⟨{ run with dedup := dedup, stage := .idle ticket }, k, ?_, ends_of_idle rfl⟩
    simp [Run.step, received, filtered]
  | true =>
    rcases planned : run.reconciler.plan h.api event k with ⟨e | commands, k'⟩
    · refine ⟨_, (Run.afterItem { run with dedup := dedup } ticket (.error e) k').2, ?_,
        ends_afterItem { run with dedup := dedup } ticket (.error e) k'⟩
      simp [Run.step, received, filtered, planned]
    · refine ⟨{ run with dedup := dedup, stage := .executing ticket commands }, k', ?_,
        ends_of_executing rfl⟩
      simp [Run.step, received, filtered, planned]

theorem ends_of_subscribing (subscribing : run.stage = .subscribing) : p.Ends (.running run) := by
  refine .of_run (by simp [Run.result?, subscribing]) fun h k => ?_
  rcases subscribed : run.feed.subscribe run.capacity k with ⟨e | ticket, k'⟩
  · refine ⟨{ run with stage := .ended (.error e) }, k', ?_, ends_of_ended rfl⟩
    simp only [Run.step, subscribing, subscribed]
  · refine ⟨{ run with stage := .idle ticket }, k', ?_, ends_of_idle rfl⟩
    simp only [Run.step, subscribing, subscribed]

theorem ends_running (run : Run Resource) : p.Ends (.running run) := by
  cases stage : run.stage with
  | subscribing => exact ends_of_subscribing stage
  | idle ticket => exact ends_of_idle stage
  | received ticket event => exact ends_of_received stage
  | executing ticket commands => exact ends_of_executing stage
  | ended result => exact ends_of_ended stage

/-! ## The other stages -/

theorem ends_starting (restarted : Bool) : p.Ends (.starting restarted) := by
  refine .of_advance fun s k told => ?_
  refine ⟨.running (Run.ofClass p.streamClass s.dedupCapacity), k, ?_, ends_running _⟩
  have told' : s.isCancelled { p with stage := .starting restarted } = true := told
  simp [Supervisor.advance, told']

/-- A stage in which a report is written goes on to the next one. -/
theorem ends_of_writing {writing : StatusWrite → PipelineStage} (report : ClassReport)
    (next : Supervisor → PipelineStage) (last : ∀ s, p.Ends (next s))
    (goes : ∀ (s : Supervisor) (k : Cluster) (write : StatusWrite),
      s.advance "" 0 { p with stage := writing write } k =
        match write.step (s.handler "") p.streamClass report k with
        | (some write, k) => some (writing write, s, k)
        | (none, k) => some (next s, s, k))
    (write : StatusWrite) : p.Ends (writing write) := by
  have committed : ∀ status, p.Ends (writing (.writing status)) := by
    intro status
    refine .of_advance fun s k _ => ?_
    exact ⟨next s, _, goes s k (.writing status), last s⟩
  cases write with
  | writing status => exact committed status
  | reading =>
    refine .of_advance fun s k _ => ?_
    rcases StatusWrite.step_cases (s.handler "") p.streamClass report k with
      ⟨k', ended⟩ | ⟨status, k', goesOn⟩
    · exact ⟨next s, k', by rw [goes, ended], last s⟩
    · exact ⟨_, k', by rw [goes, goesOn], committed status⟩

theorem ends_waiting (due : Nat) : p.Ends (.waiting due) := by
  refine .of_advance fun s k told => ⟨.finished, k, ?_, ends_finished⟩
  have told' : s.isCancelled { p with stage := .waiting due } = true := told
  simp [Supervisor.advance, told']

/-- If the pipeline is replaced all the same, its own number is given up. -/
theorem ends_restarting : p.Ends .restarting := by
  intro s k _ found _
  let left := (s.restart { p with stage := .restarting }).setPipeline { p with stage := .finished }
  have gone : left.CanEnd k p.seq := Supervisor.canEnd_of_finished rfl
  have taken : s.stepPipeline "" 0 p.seq k = some (left, k) := by
    simp [Supervisor.stepPipeline, found, Supervisor.advance, left]
  exact gone.head taken

/-- From every stage a pipeline that was told to stop can end. -/
theorem ends (p : Pipeline) : p.Ends p.stage := by
  cases p.stage with
  | starting restarted => exact ends_starting restarted
  | announcing write =>
    exact ends_of_writing .restarted
      (fun s => .running (Run.ofClass p.streamClass s.dedupCapacity)) (fun _ => ends_running _)
      (fun _ _ _ => rfl) write
  | running run => exact ends_running run
  | reporting e write =>
    exact ends_of_writing (.failed e) (fun s => .waiting (0 + s.restartDelay))
      (fun _ => ends_waiting _) (fun _ _ _ => rfl) write
  | waiting due => exact ends_waiting due
  | restarting => exact ends_restarting
  | finished => exact ends_finished

end Pipeline

namespace Supervisor

variable {s : Supervisor} {k : Cluster} {n : Nat}

/-- The pipeline with a number can end, if there is none or it was told to stop. -/
theorem canEnd (tidy : s.Tidy) (told : ∀ {p}, s.pipeline? n = some p → s.isCancelled p = true) :
    s.CanEnd k n := by
  cases found : s.pipeline? n with
  | none => exact ⟨s, k, .refl, found⟩
  | some p =>
    obtain rfl : p.seq = n := tidy.seq_eq found
    exact p.ends s k (told found) found (tidy.unfinished found)

/-- The pipeline of a handle that was taken was told to stop. -/
theorem isCancelled_of_revoke {id : String} {handle : Handle} {p : Pipeline} (tidy : s.Tidy)
    (found : (s.revoke id handle).pipeline? handle.seq = some p) :
    (s.revoke id handle).isCancelled p = true := by
  rw [revoke, pipeline?_cancel (tidy.withHandles _), if_pos rfl] at found
  obtain ⟨q, -, rfl⟩ := Option.map_eq_some_iff.1 found
  simp [isCancelled]

end Supervisor

/-! ## Runs of calls -/

namespace Session

variable {s t : Supervisor} {call : Option Call} {k k' : Cluster} {n : Nat} {now : String}
  {c : StreamClass} {handle : Handle}

/-- The rest of the supervisor stays as it was meanwhile, but for the numbers of the pipelines. -/
theorem Reachable.drives (reachable : Reachable ⟨s, call, k⟩) (drives : s.Drives n k t k') :
    Reachable ⟨t, call, k'⟩ ∧ t.stopped = s.stopped ∧ t.registry = s.registry ∧
      ∀ id, t.class? id = s.class? id := by
  induction drives with
  | refl => exact ⟨reachable, rfl, rfl, fun _ => rfl⟩
  | head taken rest ih =>
    have tidy : Supervisor.Tidy _ := reachable.sound.tidy
    obtain ⟨reachable', stopped, registry, classes⟩ := ih (reachable.step (.pipeline taken))
    refine ⟨reachable', stopped.trans (Supervisor.stopped_of_stepPipeline tidy taken),
      registry.trans (Supervisor.registry_of_stepPipeline tidy taken), fun id => ?_⟩
    exact (classes id).trans (reachable.matched.class?_of_stepPipeline tidy taken id)

/-- The pipeline of a handle that was taken can end, and the id stays free. -/
theorem Reachable.exists_awaited {id : String} (tidy : s.Tidy)
    (reachable : Reachable ⟨s.revoke id handle, call, k⟩) : ∃ t k',
      (s.revoke id handle).Drives handle.seq k t k' ∧ t.pipeline? handle.seq = none ∧
      t.registry = s.registry ∧ Table.get? id t.handles = none := by
  obtain ⟨t, k', drives, ended⟩ := Supervisor.canEnd (k := k) reachable.sound.tidy
    (Supervisor.isCancelled_of_revoke tidy)
  obtain ⟨-, -, registry, classes⟩ := reachable.drives drives
  have free : t.class? id = none := by rw [classes, Supervisor.class?_revoke, if_pos rfl]
  exact ⟨t, k', drives, ended, registry.trans Supervisor.registry_revoke,
    Supervisor.class?_eq_none_iff.1 free⟩

/-- A step of the call under way, at a time. -/
inductive OwnStep (now : String) : Session → Session → Prop where
  | taken {w : Session} {call next : Call} {s : Supervisor} {k : Cluster}
      (current : w.call = some call)
      (taken : w.supervisor.stepCall now call w.cluster = some (next, s, k)) :
      OwnStep now w ⟨s, some next, k⟩

/-- The call under way goes on by its own steps. -/
abbrev Goes (now : String) : Session → Session → Prop := Relation.ReflTransGen (OwnStep now)

theorem goes_of_stepAttach {stage next : AttachStage}
    (taken : s.stepAttach now c k stage = some (next, t, k')) :
    Goes now ⟨s, some (.attach c stage), k⟩ ⟨t, some (.attach c next), k'⟩ := by
  have moved : s.stepCall now (.attach c stage) k = some (.attach c next, t, k') := by
    rw [Supervisor.stepCall, taken, Option.map_some]
  exact .single (@OwnStep.taken now ⟨s, some (.attach c stage), k⟩ _ _ _ _ rfl moved)

theorem goes_of_stepDetach {stage next : DetachStage}
    (taken : s.stepDetach c k stage = some (next, t, k')) :
    Goes now ⟨s, some (.detach c stage), k⟩ ⟨t, some (.detach c next), k'⟩ := by
  have moved : s.stepCall now (.detach c stage) k = some (.detach c next, t, k') := by
    rw [Supervisor.stepCall, taken, Option.map_some]
  exact .single (@OwnStep.taken now ⟨s, some (.detach c stage), k⟩ _ _ _ _ rfl moved)

/-- An attaching that writes a status with its result can end. -/
theorem exists_written (stage : StatusWrite → AttachStage) (report : ClassReport)
    {result : Except Failure Unit}
    (goes : ∀ write k, s.stepAttach now c k (stage write) =
      match write.step (s.handler now) c report k with
      | (some write, k) => some (stage write, s, k)
      | (none, k) => some (.done result, s, k)) :
    ∃ k', Goes now ⟨s, some (.attach c (stage .reading)), k⟩ ⟨s, some (.attach c (.done result)), k'⟩ := by
  rcases StatusWrite.step_cases (s.handler now) c report k with ⟨k', ended⟩ | ⟨status, k', writing⟩
  · exact ⟨k', goes_of_stepAttach (by rw [goes, ended])⟩
  · have prepared : Goes now ⟨s, some (.attach c (stage .reading)), k⟩
        ⟨s, some (.attach c (stage (.writing status))), k'⟩ :=
      goes_of_stepAttach (by rw [goes, writing])
    have committed : Goes now ⟨s, some (.attach c (stage (.writing status))), k'⟩
        ⟨s, some (.attach c (.done result)),
          ((s.handler now).commitClassStatus c.reference status k').2⟩ := by
      apply goes_of_stepAttach
      rw [goes]
      rfl
    exact ⟨_, prepared.trans committed⟩

/-- A supervisor that runs lets an attaching in. -/
theorem goes_claiming (running : s.stopped = false) :
    Goes now ⟨s, some (.ofAttach c), k⟩ ⟨s, some (.attach c .claiming), k⟩ := by
  apply goes_of_stepAttach
  rw [Supervisor.stepAttach, running]
  rfl

theorem goes_registering (free : Table.get? c.id s.handles = none) :
    Goes now ⟨s, some (.attach c .claiming), k⟩ ⟨s, some (.attach c .registering), k⟩ := by
  apply goes_of_stepAttach
  simp only [Supervisor.stepAttach, Supervisor.claim, free]

/-- A class whose id another generation holds waits for the pipeline of the handle. -/
theorem goes_awaiting (found : Table.get? c.id s.handles = some handle)
    (outdated : ¬ (handle.generation = c.metadata.generation ∧ s.hasFinished handle.seq = false)) :
    Goes now ⟨s, some (.attach c .claiming), k⟩
      ⟨s.revoke c.id handle, some (.attach c (.awaiting handle.seq)), k⟩ := by
  apply goes_of_stepAttach
  simp only [Supervisor.stepAttach, Supervisor.claim, found, if_neg outdated]
  rfl

/-- When the pipeline has ended, the class that waited for it is to be registered. -/
theorem goes_awaited (ended : s.pipeline? n = none) :
    Goes now ⟨s, some (.attach c (.awaiting n)), k⟩ ⟨s, some (.attach c .registering), k⟩ := by
  apply goes_of_stepAttach
  rw [Supervisor.stepAttach, if_pos (Supervisor.hasFinished_iff.2 ended)]

/-- A class that is about to be registered, under an id that is free, is attached. -/
theorem exists_installed {registry : ClassRegistry} (free : Table.get? c.id s.handles = none)
    (inserted : s.registry.insert c = .ok registry) :
    ∃ k', Goes now ⟨s, some (.attach c .registering), k⟩
      ⟨{ s with registry := registry }.spawn c false, some (.attach c (.done (.ok ()))), k'⟩ := by
  have spawning : Goes now ⟨s, some (.attach c .registering), k⟩
      ⟨{ s with registry := registry }, some (.attach c .spawning), k⟩ := by
    apply goes_of_stepAttach
    simp only [Supervisor.stepAttach, inserted]
  have announcing : Goes now ⟨{ s with registry := registry }, some (.attach c .spawning), k⟩
      ⟨{ s with registry := registry }.spawn c false, some (.attach c (.announcing .reading)), k⟩ := by
    apply goes_of_stepAttach
    rw [← Supervisor.install_of_unhandled (s := { s with registry := registry }) free]
    rfl
  obtain ⟨k', written⟩ := exists_written .announcing .attached fun _ _ => rfl
  exact ⟨k', (spawning.trans announcing).trans written⟩

/-- A class whose id is free is attached. -/
theorem exists_attached {registry : ClassRegistry} (running : s.stopped = false)
    (free : Table.get? c.id s.handles = none) (inserted : s.registry.insert c = .ok registry) :
    ∃ k', Goes now ⟨s, some (.ofAttach c), k⟩
      ⟨{ s with registry := registry }.spawn c false, some (.attach c (.done (.ok ()))), k'⟩ := by
  obtain ⟨k', installed⟩ := exists_installed free inserted
  exact ⟨k', ((goes_claiming running).trans (goes_registering free)).trans installed⟩

/-- When the class is refused, the attaching fails. -/
theorem exists_refused {e : Failure} (refused : s.registry.insert c = .error e) :
    ∃ k', Goes now ⟨s, some (.attach c .registering), k⟩
      ⟨s, some (.attach c (.done (.error e))), k'⟩ := by
  have refusing : Goes now ⟨s, some (.attach c .registering), k⟩
      ⟨s, some (.attach c (.refusing e .reading)), k⟩ := by
    apply goes_of_stepAttach
    simp only [Supervisor.stepAttach, refused]
  obtain ⟨k', written⟩ := exists_written (.refusing e) (.failed e) fun _ _ => rfl
  exact ⟨k', refusing.trans written⟩

theorem goes_undetached (free : Table.get? c.id s.handles = none) :
    Goes now ⟨s, some (.ofDetach c), k⟩ ⟨s, some (.detach c .done), k⟩ := by
  apply goes_of_stepDetach
  simp only [Supervisor.stepDetach, Supervisor.release, free]

/-- A class that has the handle waits for its pipeline. -/
theorem goes_detaching (found : Table.get? c.id s.handles = some handle) :
    Goes now ⟨s, some (.ofDetach c), k⟩
      ⟨s.revoke c.id handle, some (.detach c (.awaiting handle)), k⟩ := by
  apply goes_of_stepDetach
  simp only [Supervisor.stepDetach, Supervisor.release, found]
  rfl

/-- When the pipeline has ended, the class gives its kind up. -/
theorem goes_detached (ended : s.pipeline? handle.seq = none) :
    Goes now ⟨s, some (.detach c (.awaiting handle)), k⟩
      ⟨{ s with registry := s.registry.remove handle.streamClass }, some (.detach c .done), k⟩ := by
  have awaited : Goes now ⟨s, some (.detach c (.awaiting handle)), k⟩
      ⟨s, some (.detach c (.releasing handle)), k⟩ := by
    apply goes_of_stepDetach
    rw [Supervisor.stepDetach, if_pos (Supervisor.hasFinished_iff.2 ended)]
  exact awaited.trans (goes_of_stepDetach rfl)

end Session

end StreamOperator
