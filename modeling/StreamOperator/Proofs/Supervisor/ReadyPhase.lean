import StreamOperator.Proofs.Supervisor.Reports
import StreamOperator.Proofs.Supervisor.ClassEdits

/-!
# Ready classes have a running pipeline

The stored phase of an attached class tells whether its pipeline runs, as long as no report is under way,
exactly when a pipeline that has failed was the last to report (`phase_holds_iff`). Nothing makes an
attaching report before the pipeline that it has started: a pipeline that fails at once can report its
failure first, and then the attaching tells that the class is ready (`exists_late_report`).
-/

set_option autoImplicit false

namespace StreamOperator

namespace Session

variable {w v : Session} {c : StreamClass} {p : Pipeline} {reports : List ClassReport} {n : Nat}

/-! ## What the phase is to tell -/

/-- No report on the class is under way or due. -/
def Quiet (w : Session) (c : StreamClass) : Prop :=
  ¬ w.Announces c ∧ ∀ p, w.supervisor.pipelineOf? c.id = some p → p.stage.isReporting = false

/-- The pipeline of the class has ended on a failure and was not started again. -/
def HasFailed (w : Session) (c : StreamClass) : Prop :=
  ∃ p, w.supervisor.pipelineOf? c.id = some p ∧ p.stage.hasFailed = true

/-- The pipeline of the class runs. -/
def IsUp (w : Session) (c : StreamClass) : Prop :=
  ∃ p, w.supervisor.pipelineOf? c.id = some p ∧ p.stage.isUp = true

/-- The stored phase tells of a failed pipeline that it has failed, and is ready only while it runs. -/
structure PhaseHolds (w : Session) (c : StreamClass) : Prop where
  failed : w.HasFailed c → w.phase? c = some .failed
  ready : w.phase? c = some .ready → w.IsUp c

/-- While no report is under way, a pipeline runs or was the last to report, namely its failure. -/
theorem Following.up_or_failed (following : Following c reports v) (reachable : v.Reachable)
    (quiet : v.Quiet c) : v.IsUp c ∧ ¬ v.HasFailed c ∨
      v.HasFailed c ∧ ¬ v.IsUp c ∧ ∃ e, ClassReport.ofPipeline? reports = some (.failed e) := by
  obtain ⟨p, found, -, active, accords⟩ := following.pipeline
  have only : ∀ {test : PipelineStage → Bool},
      (∃ q, v.supervisor.pipelineOf? c.id = some q ∧ test q.stage = true) ↔ test p.stage = true := by
    intro test
    rw [found]
    simp
  have silent := quiet.2 p found
  have stored := (reachable.sound.tidy.pipelineOf? found).1
  have unfinished := reachable.sound.tidy.unfinished stored
  have orderly := reachable.orderly stored
  rw [IsUp, HasFailed, only, only]
  generalize standing : p.stage = stage at accords silent
  cases stage with
  | starting restarted => exact .inl ⟨rfl, Bool.false_ne_true⟩
  | announcing write | reporting e write => cases silent
  | running run =>
    cases result : run.result? with
    | none => exact .inl ⟨by simp [PipelineStage.isUp, result],
        by simp [PipelineStage.hasFailed, Run.hasFailed, result]⟩
    | some result' =>
      cases result' with
      | error e => simp [PipelineStage.isReporting, Run.hasFailed, result, Except.isOk, Except.toBool] at silent
      | ok _ =>
        have told := orderly.told standing (Run.result?_eq_some_iff.1 result)
        rw [active] at told
        cases told
  | waiting due | restarting => exact .inr ⟨rfl, Bool.false_ne_true, accords⟩
  | finished => simp [Pipeline.isFinished, standing] at unfinished

/-- The attaching has reported by the time no report is under way. -/
theorem Following.exists_last (following : Following c reports v) (quiet : v.Quiet c) :
    ∃ last earlier, reports = last :: earlier ∧ v.phase? c = some last.phase := by
  have once := following.announced quiet.1
  cases reports with
  | nil => cases once
  | cons last earlier => exact ⟨last, earlier, rfl, following.phase rfl⟩

/-- The phase does not hold when the attaching has reported after the failure. -/
theorem Following.order_of_holds (following : Following c reports v) (reachable : v.Reachable)
    (quiet : v.Quiet c) (holds : v.PhaseHolds c) (failed : v.HasFailed c) :
    reports.head? ≠ some .attached := by
  obtain ⟨last, earlier, rfl, phase⟩ := following.exists_last quiet
  intro attached
  have ready : v.phase? c = some .ready := by
    rw [phase, Option.some.inj attached]
    rfl
  rcases following.up_or_failed reachable quiet with ⟨-, unfailed⟩ | ⟨-, down, -⟩
  · exact unfailed failed
  · exact down (holds.ready ready)

/-- The phase holds unless the attaching has reported after the failure. -/
theorem Following.holds_of_order (following : Following c reports v) (reachable : v.Reachable)
    (quiet : v.Quiet c) (order : v.HasFailed c → reports.head? ≠ some .attached) : v.PhaseHolds c := by
  rcases following.up_or_failed reachable quiet with ⟨up, unfailed⟩ | ⟨failed, -, e, own⟩
  · exact ⟨fun failed => absurd failed unfailed, fun _ => up⟩
  · obtain ⟨last, earlier, rfl, phase⟩ := following.exists_last quiet
    have other : last ≠ .attached := fun same => order failed (congrArg some same)
    rw [ClassReport.ofPipeline?_cons other] at own
    have phase : v.phase? c = some .failed := by
      rw [phase, Option.some.inj own]
      rfl
    refine ⟨fun _ => phase, fun ready => ?_⟩
    rw [phase] at ready
    cases ready

/-- While no report is under way, the stored phase holds exactly when it is not the attaching that has
reported last after its pipeline has failed. -/
theorem phase_holds_iff (reachable : w.Reachable) (spawning : w.call = some (.attach c .spawning))
    (running : w.supervisor.stopped = false) (course : Course c (w.started c) reports v)
    (quiet : v.Quiet c) : v.PhaseHolds c ↔ (v.HasFailed c → reports.head? ≠ some .attached) := by
  have following := course.following reachable spawning running
  have reached := course.reachable (reachable.step (started_step spawning))
  constructor
  · exact following.order_of_holds reached quiet
  · exact following.holds_of_order reached quiet

/-! ## Late reports -/

/-- The pipeline goes on, without a change to the supervisor. -/
theorem Course.advance {stage : PipelineStage} {k : Cluster} (course : Course c w reports v)
    (reachable : v.Reachable) (found : v.supervisor.pipelineOf? c.id = some p)
    (unfinished : Pipeline.isFinished { p with stage := stage } = false)
    (granted : ∀ report write, p.stage.report? = some (report, write) →
      write.Granted (v.supervisor.handler "") p.streamClass report v.cluster)
    (silent : p.stage.report? = none → k.classPhase? c.reference = v.phase? c)
    (taken : v.supervisor.advance "" 0 p v.cluster = some (stage, v.supervisor, k)) :
    ∃ u : Session, Course c w ((Announcement.over? p.stage.report? stage.report?).toList ++ reports) u ∧
      u.Reachable ∧ u.call = v.call ∧ u.cluster = k ∧ u.supervisor.stopped = v.supervisor.stopped ∧
      u.supervisor.pipelineOf? c.id = some { p with stage := stage } := by
  have tidy := reachable.sound.tidy
  have progress := Progress.pipeline found granted silent taken
  exact ⟨_, course.step progress, reachable.step (progress.toStep tidy), rfl, rfl, rfl,
    Supervisor.pipelineOf?_setPipeline tidy found unfinished⟩

/-- A step with which a failed pipeline goes on to write its report, or ends it. -/
theorem Course.reporting {e : Failure} {write : StatusWrite} (course : Course c w reports v)
    (reachable : v.Reachable) (found : v.supervisor.pipelineOf? c.id = some p)
    (failed : p.stage = .reporting e write)
    (granted : write.Granted (v.supervisor.handler "") p.streamClass (.failed e) v.cluster) :
    (∀ {status k}, write.step (v.supervisor.handler "") p.streamClass (.failed e) v.cluster
        = (some (.writing status), k) →
      ∃ u : Session, Course c w reports u ∧ u.Reachable ∧ u.call = v.call ∧ u.cluster = k ∧
        u.supervisor.stopped = v.supervisor.stopped ∧
        u.supervisor.pipelineOf? c.id = some { p with stage := .reporting e (.writing status) }) ∧
    (∀ {k}, write.step (v.supervisor.handler "") p.streamClass (.failed e) v.cluster = (none, k) →
      ∃ u : Session, ∃ due, Course c w (.failed e :: reports) u ∧ u.Reachable ∧ u.call = v.call ∧
        u.cluster = k ∧ u.supervisor.stopped = v.supervisor.stopped ∧
        u.supervisor.pipelineOf? c.id = some { p with stage := .waiting due }) := by
  have granted : ∀ report write, p.stage.report? = some (report, write) →
      write.Granted (v.supervisor.handler "") p.streamClass report v.cluster := by
    rintro report write same
    rw [failed] at same
    cases same
    exact granted
  have loud : ∀ {k}, p.stage.report? = none → Cluster.classPhase? k c.reference = v.phase? c := by
    intro k silent
    rw [failed] at silent
    cases silent
  constructor
  · intro status k goes
    have taken : v.supervisor.advance "" 0 p v.cluster
        = some (.reporting e (.writing status), v.supervisor, k) := by
      simp [Supervisor.advance, failed, goes]
    have next := course.advance reachable found rfl granted loud taken
    rw [failed] at next
    exact next
  · intro k ends
    have taken : v.supervisor.advance "" 0 p v.cluster
        = some (.waiting (0 + v.supervisor.restartDelay), v.supervisor, k) := by
      simp [Supervisor.advance, failed, ends]
    have next := course.advance reachable found rfl granted loud taken
    rw [failed] at next
    obtain ⟨u, course', after⟩ := next
    exact ⟨u, _, course', after⟩

/-- A failed pipeline reports that, and then it waits. -/
theorem Course.failure_reported {e : Failure} (course : Course c w reports v) (reachable : v.Reachable)
    (found : v.supervisor.pipelineOf? c.id = some p) (own : p.streamClass = c)
    (failed : p.stage = .reporting e .reading) (accepts : v.cluster.Accepts c.reference) :
    ∃ u : Session, ∃ due, Course c w (.failed e :: reports) u ∧ u.call = v.call ∧
      u.cluster.Accepts c.reference ∧
      u.supervisor.pipelineOf? c.id = some { p with stage := .waiting due } := by
  subst own
  obtain ⟨granted, written⟩ := StatusWrite.granted_of_accepts (h := v.supervisor.handler "") rfl
    accepts (.failed e)
  obtain ⟨goesOn, ends⟩ := course.reporting reachable found failed granted
  rcases written with ended | ⟨status, k, goes, granted', ended, accepts'⟩
  · obtain ⟨u, due, course', -, call, cluster, -, waiting⟩ := ends ended
    exact ⟨u, due, course', call, cluster ▸ accepts, waiting⟩
  · obtain ⟨⟨s, call, _⟩, course', reachable', rfl, rfl, -, found'⟩ := goesOn goes
    -- The write does not depend on what the supervisor has become.
    have granted' : (StatusWrite.writing status).Granted (s.handler "") p.streamClass (.failed e) v.cluster :=
      granted'
    have ended : (StatusWrite.writing status).step (s.handler "") p.streamClass (.failed e) v.cluster
        = (none, k) := ended
    obtain ⟨u, due, course'', -, call, cluster, -, waiting⟩ :=
      (course'.reporting reachable' found' rfl granted').2 ended
    exact ⟨u, due, course'', call, cluster ▸ accepts', waiting⟩

/-- The pipeline goes on without a report or a change to the cluster. -/
theorem Course.advance_silently {stage : PipelineStage} (course : Course c w reports v)
    (reachable : v.Reachable) (found : v.supervisor.pipelineOf? c.id = some p)
    (unfinished : Pipeline.isFinished { p with stage := stage } = false)
    (silent : p.stage.report? = none)
    (taken : v.supervisor.advance "" 0 p v.cluster = some (stage, v.supervisor, v.cluster)) :
    ∃ u : Session, Course c w reports u ∧ u.Reachable ∧ u.call = v.call ∧ u.cluster = v.cluster ∧
      u.supervisor.stopped = v.supervisor.stopped ∧
      u.supervisor.pipelineOf? c.id = some { p with stage := stage } := by
  have next := course.advance reachable found unfinished
    (fun report write same => by rw [silent] at same; cases same) (fun _ => rfl) taken
  rw [silent] at next
  exact next

/-- The pipeline of a class whose streams cannot be watched ends before it has done anything. -/
theorem Course.unwatched (course : Course c w reports v) (reachable : v.Reachable)
    (found : v.supervisor.pipelineOf? c.id = some ⟨c, n, false, .starting false⟩)
    (running : v.supervisor.stopped = false)
    (missing : v.cluster.missing.contains c.target.plural = true) :
    ∃ u : Session, ∃ e, Course c w reports u ∧ u.Reachable ∧ u.call = v.call ∧ u.cluster = v.cluster ∧
      u.supervisor.pipelineOf? c.id = some ⟨c, n, false, .reporting e .reading⟩ := by
  have begins : v.supervisor.advance "" 0 ⟨c, n, false, .starting false⟩ v.cluster =
      some (.running (Run.ofClass c v.supervisor.dedupCapacity), v.supervisor, v.cluster) := rfl
  obtain ⟨u₁, course₁, reachable₁, call₁, cluster₁, stopped₁, began⟩ :=
    course.advance_silently reachable found rfl rfl begins
  generalize v.supervisor.dedupCapacity = capacity at began
  obtain ⟨e, refused⟩ : ∃ e, Cluster.watchResources c.target c.bufferCapacity u₁.cluster
      = (.error e, u₁.cluster) := by
    refine ⟨.watchTargetMissing c.target.display, ?_⟩
    unfold Cluster.watchResources
    rw [Act.bind_ok (Act.get_apply _), cluster₁, missing]
    rfl
  have ends : u₁.supervisor.advance "" 0 ⟨c, n, false, .running (Run.ofClass c capacity)⟩ u₁.cluster =
      some (.running { Run.ofClass c capacity with stage := .ended (.error e) }, u₁.supervisor,
        u₁.cluster) := by
    refine Supervisor.advance_of_step rfl rfl ?_
    simp only [Run.step, Run.ofClass, Feed.resources, refused]
  obtain ⟨u₂, course₂, reachable₂, call₂, cluster₂, stopped₂, ended⟩ :=
    course₁.advance_silently reachable₁ began rfl rfl ends
  have active : u₂.supervisor.stopped = false := stopped₂.trans (stopped₁.trans running)
  have fails : u₂.supervisor.advance "" 0
      ⟨c, n, false, .running { Run.ofClass c capacity with stage := .ended (.error e) }⟩ u₂.cluster =
        some (.reporting e .reading, u₂.supervisor, u₂.cluster) := by
    simp [Supervisor.advance, Run.result?, Supervisor.isCancelled, active]
  obtain ⟨u₃, course₃, reachable₃, call₃, cluster₃, -, failed⟩ :=
    course₂.advance_silently reachable₂ ended rfl rfl fails
  exact ⟨u₃, e, course₃, reachable₃, call₃.trans (call₂.trans call₁),
    cluster₃.trans (cluster₂.trans cluster₁), failed⟩

/-- An attaching reports that it has started the pipeline, whatever has become of that. -/
theorem Course.attaching_reported (course : Course c w reports v)
    (current : v.call = some (.attach c (.announcing .reading)))
    (accepts : v.cluster.Accepts c.reference) :
    ∃ k, Course c w (.attached :: reports) ⟨v.supervisor, some (.attach c (.done (.ok ()))), k⟩ ∧
      k.Accepts c.reference := by
  obtain ⟨granted, written⟩ := StatusWrite.granted_of_accepts (h := v.supervisor.handler "") rfl
    accepts .attached
  rcases written with ended | ⟨status, k, goes, granted', ended, accepts'⟩
  · have taken : v.supervisor.stepAttach "" c v.cluster (.announcing .reading)
        = some (.done (.ok ()), v.supervisor, v.cluster) := by
      simp [Supervisor.stepAttach, ended]
    exact ⟨_, course.step (.attach current granted taken), accepts⟩
  · have taken : v.supervisor.stepAttach "" c v.cluster (.announcing .reading)
        = some (.announcing (.writing status), v.supervisor, v.cluster) := by
      simp [Supervisor.stepAttach, goes]
    have taken' : v.supervisor.stepAttach "" c v.cluster (.announcing (.writing status))
        = some (.done (.ok ()), v.supervisor, k) := by
      simp [Supervisor.stepAttach, ended]
    exact ⟨k, (course.step (.attach current granted taken)).step (.attach rfl granted' taken'), accepts'⟩

/-- No report is left when the attaching is over and the pipeline waits. -/
theorem quiet_of_waiting {due : Nat} {result : Except Failure Unit}
    (ended : v.call = some (.attach c (.done result)))
    (waiting : v.supervisor.pipelineOf? c.id = some ⟨c, n, false, .waiting due⟩) :
    v.Quiet c ∧ v.HasFailed c := by
  refine ⟨⟨?_, ?_⟩, _, waiting, rfl⟩
  · rintro ⟨write, current⟩
    rw [ended] at current
    cases current
  · intro p found
    obtain rfl := Option.some.inj (waiting.symm.trans found)
    rfl

section

variable (reachable : w.Reachable) (spawning : w.call = some (.attach c .spawning))
  (running : w.supervisor.stopped = false) (accepts : w.cluster.Accepts c.reference)
  (missing : w.cluster.missing.contains c.target.plural = true)

include reachable spawning running accepts missing

/-- If the streams of a class cannot be watched, its pipeline can fail before the attaching reports. -/
theorem exists_failing : ∃ (u : Session) (e : Failure) (n : Nat), Course c (w.started c) [] u ∧
    u.Reachable ∧ u.call = some (.attach c (.announcing .reading)) ∧ u.cluster.Accepts c.reference ∧
    u.supervisor.pipelineOf? c.id = some ⟨c, n, false, .reporting e .reading⟩ := by
  have began := reachable.step (started_step spawning)
  have spawned : w.supervisor.install c = w.supervisor.spawn c false :=
    Supervisor.install_of_unhandled (reachable.sound.claimed spawning rfl)
  have found : (w.started c).supervisor.pipelineOf? c.id
      = some ⟨c, w.supervisor.nextSeq, false, .starting false⟩ := by
    rw [started, spawned]
    exact Supervisor.pipelineOf?_spawn false
  have active : (w.started c).supervisor.stopped = false := by
    rw [started, spawned]
    exact running
  obtain ⟨u, e, failing, reachable', call, cluster, reporting⟩ :=
    Course.start.unwatched began found active missing
  exact ⟨u, e, _, failing, reachable', call, cluster ▸ accepts, reporting⟩

/-- Then the failure can be reported first, and after that the attaching tells that the class is ready. -/
theorem exists_late_report : ∃ reports v, Course c (w.started c) reports v ∧ v.Quiet c ∧
    v.HasFailed c ∧ v.phase? c = some .ready := by
  obtain ⟨u, e, n, failing, reachable', call, accepts', reporting⟩ :=
    exists_failing reachable spawning running accepts missing
  obtain ⟨u', due, reported, call', accepts'', waiting⟩ :=
    failing.failure_reported reachable' reporting rfl rfl accepts'
  obtain ⟨k, late, -⟩ := reported.attaching_reported (call'.trans call) accepts''
  obtain ⟨quiet, failed⟩ := quiet_of_waiting
    (v := ⟨u'.supervisor, some (.attach c (.done (.ok ()))), k⟩) rfl waiting
  exact ⟨_, _, late, quiet, failed, (late.following reachable spawning running).phase rfl⟩

/-- Or the attaching reports first. -/
theorem exists_prompt_report : ∃ reports v, Course c (w.started c) reports v ∧ v.Quiet c ∧
    v.HasFailed c ∧ reports.head? ≠ some .attached := by
  obtain ⟨u, e, n, failing, reachable', call, accepts', reporting⟩ :=
    exists_failing reachable spawning running accepts missing
  obtain ⟨k, prompt, accepts''⟩ := failing.attaching_reported call accepts'
  obtain ⟨v, due, reported, call', -, waiting⟩ := prompt.failure_reported
    (prompt.reachable (reachable.step (started_step spawning))) reporting rfl rfl accepts''
  obtain ⟨quiet, failed⟩ := quiet_of_waiting call' waiting
  exact ⟨_, v, reported, quiet, failed,
    fun same => ClassReport.failed_ne_attached e (Option.some.inj same)⟩

end

/-! ## A class whose streams cannot be watched -/

/-- The cluster stores the class and does not have the type of its streams. -/
def typeless : Cluster where
  resources := [(⟨"streamclasses", "streaming", "sql-server"⟩, ⟨none, sqlServer.metadata, .empty⟩)]
  missing := ["sql-server-streams"]

/-- The class is about to be attached there. -/
def premature : Session := ⟨informed, some (.attach sqlServer .spawning), typeless⟩

theorem typeless_accepts : typeless.Accepts sqlServer.reference := by
  constructor <;> decide +kernel

theorem typeless_misses : typeless.missing.contains sqlServer.target.plural = true := by decide +kernel

/-- Where the attaching reports first, the class is failed as its pipeline. -/
theorem failed_class_is_told : premature.Reachable ∧
    premature.call = some (.attach sqlServer .spawning) ∧ premature.supervisor.stopped = false ∧
    ∃ reports v, Course sqlServer (premature.started sqlServer) reports v ∧ v.Quiet sqlServer ∧
      v.HasFailed sqlServer ∧ v.PhaseHolds sqlServer ∧ v.phase? sqlServer = some .failed := by
  have reachable : premature.Reachable := spawning_reachable typeless
  obtain ⟨reports, v, course, quiet, failed, order⟩ :=
    exists_prompt_report reachable rfl rfl typeless_accepts typeless_misses
  have holds := (phase_holds_iff reachable rfl rfl course quiet).2 fun _ => order
  exact ⟨reachable, rfl, rfl, reports, v, course, quiet, failed, holds, holds.failed failed⟩

/-- Where the failure is reported first, the class is ready without a pipeline. -/
theorem ready_class_has_failed : premature.Reachable ∧
    premature.call = some (.attach sqlServer .spawning) ∧ premature.supervisor.stopped = false ∧
    ∃ reports v, Course sqlServer (premature.started sqlServer) reports v ∧ v.Quiet sqlServer ∧
      v.HasFailed sqlServer ∧ v.phase? sqlServer = some .ready ∧ ¬ v.PhaseHolds sqlServer := by
  have reachable : premature.Reachable := spawning_reachable typeless
  obtain ⟨reports, v, course, quiet, failed, ready⟩ :=
    exists_late_report reachable rfl rfl typeless_accepts typeless_misses
  refine ⟨reachable, rfl, rfl, reports, v, course, quiet, failed, ready, fun holds => ?_⟩
  have told := holds.failed failed
  rw [ready] at told
  cases told

end Session

end StreamOperator
