import StreamOperator.Proofs.Supervisor.ReadyPhase
import StreamOperator.Proofs.Supervisor.Stopping

/-!
# Shutdown

When the stopping of a supervisor is over nothing is left of it, and whatever is tried afterwards
nothing happens any more (`Closed.step`). The main statement is `shutdown_is_final`: it puts together
what is gone by then, what the classes have been told, and that this stays so.
-/

set_option autoImplicit false

namespace StreamOperator

/-- The call finds nothing to do when nothing is left of a supervisor that was stopped. -/
def Call.IsVain : Call → Prop
  | attach _ .checking | attach _ (.done _) | detach _ .claiming | detach _ .done
  | stop .cancelling | stop .draining | stop .done => True
  | _ => False

theorem Call.isVain_of_isFresh {call : Call} (fresh : call.IsFresh) : call.IsVain := by
  unfold Call.IsFresh at fresh
  split at fresh <;> trivial

namespace Supervisor

variable {s : Supervisor}

theorem cancelAll_of_stopped (stopped : s.stopped = true) : s.cancelAll = s := by
  unfold cancelAll
  rw [← stopped]

theorem awaitFirst_of_empty (empty : s.handles = []) :
    awaitFirst { s with handles := [] } (s.handles.map Prod.snd) = (.done, s) := by
  rw [empty, List.map_nil, awaitFirst, ← empty]

theorem stepPipeline_of_absent {now : String} {clock n : Nat} {k : Cluster}
    (absent : s.pipeline? n = none) : s.stepPipeline now clock n k = none := by
  rw [stepPipeline, absent, Option.bind_none]

theorem stepCall_ofAttach_of_stopped {now : String} {c : StreamClass} {k : Cluster}
    (stopped : s.stopped = true) :
    s.stepCall now (.ofAttach c) k = some (.attach c (.done (.error stoppedFailure)), s, k) := by
  simp [stepCall, Call.ofAttach, stepAttach, stopped]

end Supervisor

namespace Session

variable {others : Cluster → Cluster → Prop} {w v : Session} {c : StreamClass} {ref : ClassRef}

/-! ## The end of a stop -/

theorem Ended.handles_eq_nil (ended : w.Ended) : w.supervisor.handles = [] := by
  cases standing : w.supervisor.handles with
  | nil => rfl
  | cons entry rest =>
    have absent := (ended.absent entry.1).1
    simp [standing, Table.get?] at absent

theorem Ended.pipeline?_eq_none (ended : w.Ended) (n : Nat) : w.supervisor.pipeline? n = none := by
  cases found : w.supervisor.pipeline? n with
  | none => rfl
  | some p => exact absurd ⟨n, p, found, rfl⟩ (ended.absent p.streamClass.id).2

/-- When the call is over no handle is on hand, and nothing is owed. -/
theorem Ended.not_onHand (ended : w.Ended) (finished : w.call = some (.stop .done)) : ¬ w.OnHand c := by
  rintro ⟨handle, ⟨id, member⟩ | ⟨call, current, member⟩, -⟩
  · rw [ended.handles_eq_nil] at member
    cases member
  · obtain rfl := Option.some.inj (finished.symm.trans current)
    cases member

theorem Ended.not_owes (ended : w.Ended) (finished : w.call = some (.stop .done)) : ¬ w.Owes ref := by
  rintro (⟨c, onHand, -⟩ | ⟨first, rest, write, reporting, -⟩)
  · exact ended.not_onHand finished onHand
  · rw [finished] at reporting
    cases reporting

/-! ## After the stop -/

/-- The supervisor was stopped, nothing is left of it, and no call finds anything to do. -/
structure Closed (w : Session) : Prop extends w.Ended where
  vain : ∀ {call}, w.call = some call → call.IsVain

theorem Ended.closed (ended : w.Ended) (finished : w.call = some (.stop .done)) : w.Closed := by
  refine ⟨ended, ?_⟩
  intro call current
  obtain rfl := Option.some.inj (finished.symm.trans current)
  trivial

/-- A call that finds nothing to do does nothing. -/
theorem Ended.callStep {now : String} {call next : Call} {s : Supervisor} {k k' : Cluster}
    (ended : w.Ended) (vain : call.IsVain) (moved : w.supervisor.CallStep now k call next s k') :
    s = w.supervisor ∧ k' = k ∧ next.IsVain := by
  cases moved with
  | attach moved =>
    cases moved with
    | refused => exact ⟨rfl, rfl, trivial⟩
    | admitted running =>
      rw [ended.stopped] at running
      cases running
    | _ => exact absurd vain id
  | detach moved =>
    cases moved with
    | unhandled => exact ⟨rfl, rfl, trivial⟩
    | claimed found =>
      rw [(ended.absent _).1] at found
      cases found
    | _ => exact absurd vain id
  | stop moved =>
    cases moved with
    | cancelled => exact ⟨Supervisor.cancelAll_of_stopped ended.stopped, rfl, trivial⟩
    | drained =>
      rw [Supervisor.awaitFirst_of_empty ended.handles_eq_nil]
      exact ⟨rfl, rfl, trivial⟩
    | _ => exact absurd vain id

/-- Nothing happens to a supervisor any more once it has stopped. -/
theorem Closed.step (closed : w.Closed) (sound : w.Sound) (step : Step w v) :
    v.supervisor = w.supervisor ∧ v.Closed := by
  have ended := closed.toEnded.step sound step
  cases step with
  | pipeline taken =>
    rw [Supervisor.stepPipeline_of_absent (closed.pipeline?_eq_none _)] at taken
    cases taken
  | call current taken =>
    obtain ⟨same, -, vain⟩ := closed.callStep (closed.vain current)
      (Supervisor.callStep_of_stepCall taken)
    refine ⟨same, ended, ?_⟩
    intro call current'
    obtain rfl := Option.some.inj current'
    exact vain
  | begin _ fresh =>
    refine ⟨rfl, ended, ?_⟩
    intro call current
    obtain rfl := Option.some.inj current
    exact Call.isVain_of_isFresh fresh
  | cancel => exact ⟨Supervisor.cancelAll_of_stopped closed.stopped, ended, closed.vain⟩
  | elsewhere => exact ⟨rfl, ended, closed.vain⟩

theorem Closed.reaches (closed : w.Closed) (sound : w.Sound) (run : Reaches w v) :
    v.supervisor = w.supervisor ∧ v.Closed := by
  induction run with
  | refl => exact ⟨rfl, closed⟩
  | tail before last ih =>
    obtain ⟨same, closed'⟩ := ih
    obtain ⟨same', closed''⟩ := closed'.step (sound.reaches before) last
    exact ⟨same'.trans same, closed''⟩

/-- Whatever the pipelines and others do while a supervisor is stopped: when that is over no handle and
no pipeline is left, the kinds of all classes that had a handle are given up, and their resources, where
they are stored still, tell that the supervisor was stopped, if statuses can be written and nobody else
writes them. After that no pipeline takes a step, no call changes anything, and every class that is to be
attached is refused. -/
theorem shutdown_is_final (reachable : w.Reachable) (idle : w.IsIdle)
    (run : Relation.ReflTransGen (Underway others) { w with call := some .ofStop } v)
    (finished : v.call = some (.stop .done)) :
    (v.supervisor.handles = [] ∧ ∀ n, v.supervisor.pipeline? n = none) ∧
    (∀ entry ∈ w.supervisor.handles,
      v.supervisor.registry.get? entry.2.streamClass.spec.kindRef = none) ∧
    (w.cluster.Obliges → (∀ k k', others k k' → k.SparesPhases k') →
      ∀ entry ∈ w.supervisor.handles,
        (v.cluster.class? entry.2.streamClass.reference).isSome →
        v.cluster.classPhase? entry.2.streamClass.reference = some .stopped) ∧
    ∀ u, Reaches v u → u.supervisor = v.supervisor ∧
      (∀ now clock n k, u.supervisor.stepPipeline now clock n k = none) ∧
      (∀ now call next s k, u.call = some call →
        u.supervisor.stepCall now call u.cluster = some (next, s, k) →
        s = u.supervisor ∧ k = u.cluster) ∧
      ∀ now c k, u.supervisor.stepCall now (.ofAttach c) k =
        some (.attach c (.done (.error (.invalidState "Supervisor is stopped"))), u.supervisor, k) := by
  have began : Reachable { w with call := some .ofStop } := reachable.step (.begin idle trivial)
  have onHand : ∀ entry ∈ w.supervisor.handles,
      OnHand { w with call := some .ofStop } entry.2.streamClass :=
    fun entry member => ⟨entry.2, .inl ⟨entry.1, member⟩, rfl⟩
  have reachable' := began.reaches (reaches_of_underway run)
  have ended := reachable'.sound.ended finished
  refine ⟨⟨ended.handles_eq_nil, ended.pipeline?_eq_none⟩, ?_, ?_, ?_⟩
  · intro entry member
    have clears : v.Clears entry.2.streamClass := Clears.run (.inl (onHand entry member)) began rfl run
    exact clears.resolve_left (ended.not_onHand finished)
  · intro obliges spare entry member
    have first : Settles { w with call := some .ofStop } entry.2.streamClass.reference :=
      ⟨obliges, (fun _ _ _ reporting => by cases reporting),
        .inl (.inl ⟨_, onHand entry member, rfl⟩)⟩
    have settles := first.run began rfl spare run
    exact settles.told.resolve_left (ended.not_owes finished)
  · intro u after
    obtain ⟨same, closed⟩ := (ended.closed finished).reaches reachable'.sound after
    refine ⟨same, fun _ _ n _ => Supervisor.stepPipeline_of_absent (closed.pipeline?_eq_none n), ?_,
      fun _ _ _ => Supervisor.stepCall_ofAttach_of_stopped closed.stopped⟩
    intro now call next s k current taken
    obtain ⟨kept, unwritten, -⟩ := closed.callStep (closed.vain current)
      (Supervisor.callStep_of_stepCall taken)
    exact ⟨kept, unwritten⟩

/-! ## A failure that is written late -/

/-- The class was attached, and its pipeline is at a stage. -/
def attachedAt (stage : PipelineStage) : Session :=
  ⟨(informed.spawn sqlServer false).setPipeline ⟨sqlServer, 0, false, stage⟩,
    some (.attach sqlServer (.done (.ok ()))), typeless⟩

/-- What the pipeline fails on. -/
def untyped : Failure := .watchTargetMissing sqlServer.target.display

/-- The type of the streams is missing, so the pipeline fails. -/
theorem failing_reachable : (attachedAt (.reporting untyped .reading)).Reachable := by
  have announced : Step (attaching (informed.spawn sqlServer false) (.announcing .reading))
      ⟨informed.spawn sqlServer false, some (.attach sqlServer (.done (.ok ()))), {}⟩ :=
    @Step.call _ "" _ _ _ _ rfl rfl
  have started : (attachedAt (.starting false)).Reachable :=
    (attaching_reachable.step announced).step (.elsewhere typeless)
  have runs : Step (attachedAt (.starting false)) (attachedAt (.running (Run.ofClass sqlServer 128))) :=
    @Step.pipeline (attachedAt (.starting false)) "" 0 0 _ _ rfl
  have refused : Step (attachedAt (.running (Run.ofClass sqlServer 128)))
      (attachedAt (.running { Run.ofClass sqlServer 128 with stage := .ended (.error untyped) })) :=
    @Step.pipeline (attachedAt (.running (Run.ofClass sqlServer 128))) "" 0 0 _ _ rfl
  have fails : Step
      (attachedAt (.running { Run.ofClass sqlServer 128 with stage := .ended (.error untyped) }))
      (attachedAt (.reporting untyped .reading)) :=
    @Step.pipeline (attachedAt (.running
      { Run.ofClass sqlServer 128 with stage := .ended (.error untyped) })) "" 0 0 _ _ rfl
  exact ((started.step runs).step refused).step fails

/-- The failure is not told yet, so there is a status to write. -/
theorem exists_late_write : ∃ status k, k.Accepts sqlServer.reference ∧
    (attachedAt (.reporting untyped (.writing status))).Reachable ∧
    ∀ h : Handler Cluster, h.api = Cluster.api →
      (StatusWrite.writing status).step h sqlServer (.failed untyped) typeless = (none, k) := by
  obtain ⟨granted, ended | ⟨status, k, goes, -, written, accepts⟩⟩ :=
    StatusWrite.granted_of_accepts
      (h := (attachedAt (.reporting untyped .reading)).supervisor.handler "") rfl typeless_accepts
      (.failed untyped)
  · have unwritten : StatusWrite.reading.Tells .failed := trivial
    have told := StatusWrite.phase_of_ended rfl unwritten granted ended
    have untold : typeless.classPhase? sqlServer.reference = none := by decide +kernel
    rw [untold] at told
    cases told
  · refine ⟨status, k, accepts, failing_reachable.step ?_, ?_⟩
    · have advanced : (attachedAt (.reporting untyped .reading)).supervisor.advance "" 0
          ⟨sqlServer, 0, false, .reporting untyped .reading⟩ typeless =
            some (.reporting untyped (.writing status),
              (attachedAt (.reporting untyped .reading)).supervisor, typeless) := by
        simp only [Supervisor.advance, goes]
      have found : (attachedAt (.reporting untyped .reading)).supervisor.pipeline? 0 =
          some ⟨sqlServer, 0, false, .reporting untyped .reading⟩ := rfl
      exact .pipeline (Supervisor.stepPipeline_of_advance found advanced)
    · intro h inMemory
      rw [← written, StatusWrite.step, StatusWrite.step, Handler.commitClassStatus,
        Handler.commitClassStatus, inMemory]
      rfl

/-- The last report of a stopping is granted. -/
theorem exists_last_report {s : Supervisor} {k : Cluster} {first : Handle}
    (accepts : k.Accepts first.streamClass.reference) :
    ∃ k', Relation.ReflTransGen (Underway others) ⟨s, some (.stop (.reporting first [] .reading)), k⟩
      ⟨s, some (.stop .done), k'⟩ ∧ k'.Accepts first.streamClass.reference := by
  obtain ⟨-, written⟩ := StatusWrite.granted_of_accepts (h := s.handler "") rfl accepts .stopped
  rcases written with ended | ⟨status, k', goes, -, ended, accepts'⟩
  · refine ⟨k, .single (@Underway.call _ _ "" _ _ _ _ rfl ?_), accepts⟩
    simp [Supervisor.stepCall, Supervisor.stepStop, ended, Supervisor.awaitFirst]
  · have prepared : Underway others ⟨s, some (.stop (.reporting first [] .reading)), k⟩
        ⟨s, some (.stop (.reporting first [] (.writing status))), k⟩ := by
      refine @Underway.call _ _ "" _ _ _ _ rfl ?_
      simp [Supervisor.stepCall, Supervisor.stepStop, goes]
    refine ⟨k', (Relation.ReflTransGen.single prepared).tail ?_, accepts'⟩
    refine @Underway.call _ _ "" _ _ _ _ rfl ?_
    simp [Supervisor.stepCall, Supervisor.stepStop, ended, Supervisor.awaitFirst]

/-- The handle of the class. -/
def sqlServerHandle : Handle := ⟨sqlServer, some 1, 0⟩

/-- The supervisor stops, and waits for the pipeline, which is at a stage. -/
def awaitingAt (stage : PipelineStage) (k : Cluster) : Session :=
  ⟨Supervisor.cancel { (attachedAt stage).supervisor.cancelAll with handles := [] } 0,
    some (.stop (.awaiting [sqlServerHandle])), k⟩

theorem sqlServer_not_governsClasses : ¬ sqlServer.GovernsClasses := by
  unfold StreamClass.GovernsClasses
  decide

/-- The pipeline that was told to stop writes its failure first. -/
theorem late_write {status : Json} {k : Cluster} (written : ∀ h : Handler Cluster,
      h.api = Cluster.api →
      (StatusWrite.writing status).step h sqlServer (.failed untyped) typeless = (none, k)) :
    ∃ due, Underway others (awaitingAt (.reporting untyped (.writing status)) typeless)
      (awaitingAt (.waiting due) k) := by
  let s := (awaitingAt (.reporting untyped (.writing status)) typeless).supervisor
  have found : s.pipeline? 0 = some ⟨sqlServer, 0, true, .reporting untyped (.writing status)⟩ := rfl
  have advanced : s.advance "" 0 ⟨sqlServer, 0, true, .reporting untyped (.writing status)⟩
      typeless = some (.waiting (0 + s.restartDelay), s, k) := by
    simp only [Supervisor.advance, written (s.handler "") rfl]
  exact ⟨_, .pipeline found (fun silent => by cases silent)
    (Supervisor.stepPipeline_of_advance found advanced)⟩

/-- The pipeline ends instead of being started again, and the class gets its last report. -/
theorem exists_end_of_stop {due : Nat} {k : Cluster} (accepts : k.Accepts sqlServer.reference) :
    ∃ s k', Relation.ReflTransGen (Underway others) (awaitingAt (.waiting due) k)
      ⟨s, some (.stop .done), k'⟩ ∧ k'.Accepts sqlServer.reference := by
  have left : Underway others (awaitingAt (.waiting due) k) (awaitingAt .finished k) :=
    @Underway.pipeline _ _ "" 0 0 _ _ _ rfl
      (fun _ governs => absurd governs sqlServer_not_governsClasses) rfl
  have awaited : Underway others (awaitingAt .finished k)
      { awaitingAt .finished k with call := some (.stop (.releasing sqlServerHandle [])) } :=
    @Underway.call _ _ "" _ _ _ _ rfl rfl
  obtain ⟨s, released⟩ : ∃ s, Underway others
      { awaitingAt .finished k with call := some (.stop (.releasing sqlServerHandle [])) }
      ⟨s, some (.stop (.reporting sqlServerHandle [] .reading)), k⟩ :=
    ⟨_, @Underway.call _ _ "" _ _ _ _ rfl rfl⟩
  obtain ⟨k', last, accepts'⟩ := @exists_last_report others s k sqlServerHandle accepts
  exact ⟨s, k', ((Relation.ReflTransGen.single left).tail awaited).tail released |>.trans last, accepts'⟩

/-- The pipeline writes its failure while the supervisor stops, and the class is told all the same that
its supervisor was stopped. -/
theorem late_failure_is_overwritten : ∃ w v : Session, w.Reachable ∧ w.IsIdle ∧
    Relation.ReflTransGen (Underway fun _ _ => False) { w with call := some .ofStop } v ∧
    v.call = some (.stop .done) ∧ v.supervisor.registry.get? "SqlServerStream" = none ∧
    v.cluster.classPhase? sqlServer.reference = some .stopped := by
  obtain ⟨status, k, accepts, reachable, written⟩ := exists_late_write
  have idle : (attachedAt (.reporting untyped (.writing status))).IsIdle := by
    intro call current
    obtain rfl := Option.some.inj current
    rfl
  have cancelled : Underway (fun _ _ => False)
      { attachedAt (.reporting untyped (.writing status)) with call := some .ofStop }
      ⟨(attachedAt (.reporting untyped (.writing status))).supervisor.cancelAll,
        some (.stop .draining), typeless⟩ := @Underway.call _ _ "" _ _ _ _ rfl rfl
  have drained : Underway (fun _ _ => False)
      ⟨(attachedAt (.reporting untyped (.writing status))).supervisor.cancelAll,
        some (.stop .draining), typeless⟩
      (awaitingAt (.reporting untyped (.writing status)) typeless) :=
    @Underway.call _ _ "" _ _ _ _ rfl rfl
  obtain ⟨due, reported⟩ := @late_write (fun _ _ => False) status k written
  obtain ⟨s, k', ended, accepts'⟩ := @exists_end_of_stop (fun _ _ => False) due k accepts
  have run := ((Relation.ReflTransGen.single cancelled).tail drained).tail reported |>.trans ended
  obtain ⟨-, cleared, told, -⟩ := shutdown_is_final reachable idle run rfl
  refine ⟨_, _, reachable, idle, run, rfl, cleared _ (.head _), ?_⟩
  exact told ⟨typeless_accepts.readable, typeless_accepts.writable⟩ (fun _ _ => False.elim) _ (.head _)
    accepts'.stored

end Session

end StreamOperator
