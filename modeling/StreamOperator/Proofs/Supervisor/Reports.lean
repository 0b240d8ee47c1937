import StreamOperator.Proofs.Handler.ClassStatus
import StreamOperator.Proofs.Handler.Outcomes
import StreamOperator.Proofs.Supervisor.Fleet
import StreamOperator.Proofs.Supervisor.Handles

/-!
# Reports of an attaching and of its pipeline

An attaching starts the pipeline of its class and reports that afterwards, while the pipeline reports its
failures and its restarts. Nothing orders the two. `Session.Course` is any course that things take from
the start of the pipeline on, with the reports that are over by then. `Following` is its invariant: the
stored class tells the phase of the last report, whoever made it, and the stage of the pipeline goes by the
last report of its own.
-/

set_option autoImplicit false

namespace StreamOperator

/-! ## Stages and their reports -/

/-- A report together with where its writing stands. -/
abbrev Announcement : Type := ClassReport × StatusWrite

/-- The report that is over when one announcement is followed by another. -/
def Announcement.over? : Option Announcement → Option Announcement → Option ClassReport
  | some (report, _), none => some report
  | _, _ => none

/-- What an attaching that has started its pipeline reports. -/
def AttachStage.report? : AttachStage → Option Announcement
  | announcing write => some (.attached, write)
  | _ => none

def Run.hasFailed {α : Type} (r : Run α) : Bool := r.result?.any fun result => !result.isOk

namespace PipelineStage

def report? : PipelineStage → Option Announcement
  | announcing write => some (.restarted, write)
  | reporting e write => some (.failed e, write)
  | _ => none

/-- The pipeline has ended on a failure and was not started again. -/
def hasFailed : PipelineStage → Bool
  | running run => run.hasFailed
  | reporting _ _ | waiting _ | restarting => true
  | _ => false

/-- The pipeline runs or is about to. -/
def isUp : PipelineStage → Bool
  | starting _ | announcing _ => true
  | running run => run.result?.isNone
  | _ => false

/-- A report is under way, or due at once since the run has failed. -/
def isReporting : PipelineStage → Bool
  | announcing _ | reporting _ _ => true
  | running run => run.hasFailed
  | _ => false

/-- The stage goes by the last report of the pipeline, and what it is about to write tells its phase. -/
def Accords (last : Option ClassReport) : PipelineStage → Prop
  | starting restarted => restarted = false → last = none
  | announcing write => write.Tells .ready
  | running _ => ∀ e, last ≠ some (.failed e)
  | reporting _ write => write.Tells .failed
  | waiting _ | restarting => ∃ e, last = some (.failed e)
  | finished => True

end PipelineStage

/-- The last report among the reports of the pipeline, where the latest comes first. -/
def ClassReport.ofPipeline? (reports : List ClassReport) : Option ClassReport :=
  reports.find? fun report => report ≠ .attached

@[simp] theorem ClassReport.ofPipeline?_attached (reports : List ClassReport) :
    ofPipeline? (.attached :: reports) = ofPipeline? reports := by
  simp [ofPipeline?]

theorem ClassReport.restarted_ne_attached : ClassReport.restarted ≠ .attached := by decide

theorem ClassReport.failed_ne_attached (e : Failure) : ClassReport.failed e ≠ .attached := by
  intro same
  cases congrArg ClassReport.phase same

theorem ClassReport.ofPipeline?_cons {report : ClassReport} (own : report ≠ .attached)
    (reports : List ClassReport) : ofPipeline? (report :: reports) = some report := by
  simp [ofPipeline?, own]

/-- The run of a class writes no resources but those of its type. -/
theorem Run.Serves.resource_of_step {r r' : Run Resource} {c : StreamClass} {h : Handler Cluster}
    {cancelled : Bool} {k k' : Cluster} {key : ResourceKey} (serves : r.Serves c)
    (inMemory : h.api = Cluster.api) (foreign : key.plural ≠ c.spec.pluralName)
    (taken : r.step h cancelled k = some (r', k')) :
    Table.get? key k'.resources = Table.get? key k.resources := by
  rcases (Run.went_of_step taken).2.kept_or_handled serves.leavesResources inMemory with
    same | ⟨ticket, command, rest, executing, changed⟩
  · rw [same]
  · obtain ⟨event, found, decided⟩ := serves.decided command (by rw [executing]; exact List.mem_cons_self)
    have other : key ≠ (event.definition c.target).reference.key := fun same =>
      foreign (congrArg ResourceKey.plural same)
    rw [changed, Definition.writesOnly_of_mem_react command decided h k key inMemory other]

namespace Supervisor

variable {s : Supervisor} {c : StreamClass} {p : Pipeline} {id : String} {stage : PipelineStage}

/-- The pipeline that the handle of a class id names. -/
def pipelineOf? (s : Supervisor) (id : String) : Option Pipeline :=
  (Table.get? id s.handles).bind fun handle => s.pipeline? handle.seq

theorem Tidy.pipelineOf? (tidy : s.Tidy) (found : s.pipelineOf? id = some p) :
    s.pipeline? p.seq = some p ∧ ∃ handle, Table.get? id s.handles = some handle ∧ handle.seq = p.seq := by
  obtain ⟨handle, own, stored⟩ := Option.bind_eq_some_iff.1 found
  have seq : p.seq = handle.seq := tidy.seq_eq stored
  exact ⟨seq ▸ stored, handle, own, seq.symm⟩

theorem pipelineOf?_spawn (restarted : Bool) :
    (s.spawn c restarted).pipelineOf? c.id = some ⟨c, s.nextSeq, false, .starting restarted⟩ := by
  rw [Supervisor.pipelineOf?, handle?_spawn, if_pos rfl, Option.bind_some, pipeline?_spawn, if_pos rfl]

theorem pipelineOf?_setPipeline (tidy : s.Tidy) (found : s.pipelineOf? id = some p)
    (unfinished : Pipeline.isFinished { p with stage := stage } = false) :
    (s.setPipeline { p with stage := stage }).pipelineOf? id = some { p with stage := stage } := by
  obtain ⟨-, handle, own, seq⟩ := tidy.pipelineOf? found
  have own : Table.get? id (s.setPipeline { p with stage := stage }).handles = some handle := own
  rw [Supervisor.pipelineOf?, own, Option.bind_some, pipeline?_setPipeline, if_pos seq,
    if_neg (by simp [unfinished])]

/-- A pipeline is replaced by the one that was started in its place. -/
theorem pipelineOf?_restart (tidy : s.Tidy) (running : s.stopped = false)
    (found : s.pipelineOf? p.streamClass.id = some p) :
    ((s.restart p).setPipeline { p with stage := .finished }).pipelineOf? p.streamClass.id
      = some ⟨p.streamClass, s.nextSeq, false, .starting true⟩ := by
  obtain ⟨stored, handle, own, seq⟩ := tidy.pipelineOf? found
  have spawned : s.restart p = s.spawn p.streamClass true := by simp [restart, running, own, seq]
  have earlier : s.nextSeq ≠ p.seq := Nat.ne_of_gt (tidy.seq_lt stored)
  have new : Table.get? p.streamClass.id
      ((s.spawn p.streamClass true).setPipeline { p with stage := .finished }).handles
        = some ⟨p.streamClass, p.streamClass.metadata.generation, s.nextSeq⟩ :=
    (handle?_spawn _ true).trans (if_pos rfl)
  rw [spawned, Supervisor.pipelineOf?, new, Option.bind_some, pipeline?_setPipeline, if_neg earlier,
    pipeline?_spawn, if_pos rfl]

end Supervisor

namespace Session

/-! ## Courses -/

/-- The phase of the class as it is stored. -/
def phase? (w : Session) (c : StreamClass) : Option ClassPhase := w.cluster.classPhase? c.reference

/-- An attaching of the class has started the pipeline and has not reported it yet. -/
def Announces (w : Session) (c : StreamClass) : Prop :=
  ∃ write, w.call = some (.attach c (.announcing write))

/-- A step is none of the attaching or of the pipeline of a class, and does not concern them. -/
structure Apart (c : StreamClass) (w v : Session) : Prop where
  pipeline : v.supervisor.pipelineOf? c.id = w.supervisor.pipelineOf? c.id
  stopped : v.supervisor.stopped = w.supervisor.stopped
  phase : v.phase? c = w.phase? c
  call : v.call = w.call ∨ ¬ w.Announces c ∧ ¬ v.Announces c

/-- One step of the attaching, of the pipeline, or of anything else that does not concern them, with the
report that is over with it. Whatever is written to the status of the class is granted, and it is written
by reports alone. -/
inductive Progress (c : StreamClass) (w : Session) : Option ClassReport → Session → Prop where
  | attach {now : String} {write : StatusWrite} {next : AttachStage} {s : Supervisor} {k : Cluster}
      (current : w.call = some (.attach c (.announcing write)))
      (granted : write.Granted (w.supervisor.handler now) c .attached w.cluster)
      (taken : w.supervisor.stepAttach now c w.cluster (.announcing write) = some (next, s, k)) :
      Progress c w (Announcement.over? (some (.attached, write)) next.report?)
        ⟨s, some (.attach c next), k⟩
  | pipeline {now : String} {clock : Nat} {p : Pipeline} {stage : PipelineStage} {s : Supervisor}
      {k : Cluster} (found : w.supervisor.pipelineOf? c.id = some p)
      (granted : ∀ report write, p.stage.report? = some (report, write) →
        write.Granted (w.supervisor.handler now) p.streamClass report w.cluster)
      (silent : p.stage.report? = none → k.classPhase? c.reference = w.phase? c)
      (taken : w.supervisor.advance now clock p w.cluster = some (stage, s, k)) :
      Progress c w (Announcement.over? p.stage.report? stage.report?)
        { w with supervisor := s.setPipeline { p with stage := stage }, cluster := k }
  | others {v : Session} (apart : Apart c w v) (step : Step w v) : Progress c w none v

/-- The session after an attaching has started the pipeline. -/
def started (w : Session) (c : StreamClass) : Session :=
  ⟨w.supervisor.install c, some (.attach c (.announcing .reading)), w.cluster⟩

/-- The session after any number of steps, with the reports that are over, the latest first. -/
inductive Course (c : StreamClass) (w : Session) : List ClassReport → Session → Prop where
  | start : Course c w [] w
  | step {reports : List ClassReport} {ended : Option ClassReport} {v u : Session}
      (before : Course c w reports v) (progress : Progress c v ended u) :
      Course c w (ended.toList ++ reports) u

variable {w v : Session} {c : StreamClass} {p : Pipeline} {reports : List ClassReport}
  {ended : Option ClassReport}

theorem started_step (spawning : w.call = some (.attach c .spawning)) : Step w (w.started c) :=
  @Step.call w "" _ _ _ _ spawning rfl

theorem Progress.toStep (tidy : w.supervisor.Tidy) (progress : Progress c w ended v) : Step w v := by
  cases progress with
  | @attach now _ _ _ _ current _ taken =>
    refine @Step.call w now _ _ _ _ current ?_
    rw [Supervisor.stepCall, taken, Option.map_some]
  | @pipeline now clock p _ _ _ found _ _ taken =>
    refine @Step.pipeline w now clock p.seq _ _ ?_
    rw [Supervisor.stepPipeline, (tidy.pipelineOf? found).1, Option.bind_some, taken,
      Option.map_some]
  | others _ step => exact step

theorem Course.reachable (reachable : w.Reachable) (course : Course c w reports v) : v.Reachable := by
  induction course with
  | start => exact reachable
  | step before progress ih => exact ih.step (progress.toStep ih.sound.tidy)

/-! ## What a course leaves -/

/-- What is so after a course with certain reports, the latest first. -/
structure Following (c : StreamClass) (reports : List ClassReport) (w : Session) : Prop where
  pipeline : ∃ p, w.supervisor.pipelineOf? c.id = some p ∧ p.streamClass = c ∧
    w.supervisor.isCancelled p = false ∧ p.stage.Accords (ClassReport.ofPipeline? reports)
  announcing : ∀ {write}, w.call = some (.attach c (.announcing write)) →
    write.Tells .ready ∧ reports.count .attached = 0
  announced : ¬ w.Announces c → reports.count .attached = 1
  phase : ∀ {report}, reports.head? = some report → w.phase? c = some report.phase

theorem Following.of_found (following : Following c reports w)
    (found : w.supervisor.pipelineOf? c.id = some p) : p.streamClass = c ∧
      w.supervisor.isCancelled p = false ∧ p.stage.Accords (ClassReport.ofPipeline? reports) := by
  obtain ⟨q, own, holds⟩ := following.pipeline
  obtain rfl := Option.some.inj (found.symm.trans own)
  exact holds

theorem Reachable.following_started (reachable : w.Reachable)
    (spawning : w.call = some (.attach c .spawning)) (running : w.supervisor.stopped = false) :
    Following c [] (w.started c) := by
  have spawned := Supervisor.install_of_unhandled (reachable.sound.claimed spawning rfl)
  rw [started, spawned]
  refine ⟨⟨_, Supervisor.pipelineOf?_spawn false, rfl, ?_, fun _ => rfl⟩, ?_, ?_, ?_⟩
  · exact Bool.or_eq_false_iff.2 ⟨running, rfl⟩
  · rintro write current
    cases current
    exact ⟨trivial, rfl⟩
  · intro silent
    exact absurd ⟨_, rfl⟩ silent
  · intro report first
    cases first

/-- The pipeline has gone on without a report. -/
theorem Following.silent {stage : PipelineStage} {k : Cluster} (following : Following c reports w)
    (tidy : w.supervisor.Tidy) (found : w.supervisor.pipelineOf? c.id = some p)
    (unfinished : Pipeline.isFinished { p with stage := stage } = false)
    (accords : stage.Accords (ClassReport.ofPipeline? reports))
    (kept : k.classPhase? c.reference = w.phase? c) : Following c reports
      { w with supervisor := w.supervisor.setPipeline { p with stage := stage }, cluster := k } := by
  obtain ⟨own, active, -⟩ := following.of_found found
  exact ⟨⟨_, Supervisor.pipelineOf?_setPipeline tidy found unfinished, own, active, accords⟩,
    following.announcing, following.announced, fun first => kept.trans (following.phase first)⟩

/-- The pipeline has gone on, and a report of it is over. -/
theorem Following.reported {stage : PipelineStage} {report : ClassReport} {k : Cluster}
    (following : Following c reports w) (tidy : w.supervisor.Tidy)
    (found : w.supervisor.pipelineOf? c.id = some p)
    (unfinished : Pipeline.isFinished { p with stage := stage } = false)
    (other : report ≠ .attached) (accords : stage.Accords (some report))
    (phase : k.classPhase? c.reference = some report.phase) : Following c (report :: reports)
      { w with supervisor := w.supervisor.setPipeline { p with stage := stage }, cluster := k } := by
  obtain ⟨own, active, -⟩ := following.of_found found
  refine ⟨⟨_, Supervisor.pipelineOf?_setPipeline tidy found unfinished, own, active, ?_⟩, ?_, ?_, ?_⟩
  · rw [ClassReport.ofPipeline?_cons other]
    exact accords
  · intro write current
    rw [List.count_cons_of_ne other]
    exact following.announcing current
  · intro silent
    rw [List.count_cons_of_ne other]
    exact following.announced silent
  · intro report' first
    rw [← Option.some.inj first]
    exact phase

/-- The attaching has gone on. -/
theorem Following.attach {now : String} {write : StatusWrite} {next : AttachStage} {s : Supervisor}
    {k : Cluster} (following : Following c reports w)
    (current : w.call = some (.attach c (.announcing write)))
    (granted : write.Granted (w.supervisor.handler now) c .attached w.cluster)
    (taken : w.supervisor.stepAttach now c w.cluster (.announcing write) = some (next, s, k)) :
    Following c ((Announcement.over? (some (.attached, write)) next.report?).toList ++ reports)
      ⟨s, some (.attach c next), k⟩ := by
  obtain ⟨tells, none_yet⟩ := following.announcing current
  cases Supervisor.attachStep_of_stepAttach taken with
  | announcing goes =>
    obtain ⟨rfl, tells'⟩ := StatusWrite.tells_of_goes rfl granted goes
    refine ⟨following.pipeline, ?_, ?_, following.phase⟩
    · intro write' current'
      cases current'
      exact ⟨tells', none_yet⟩
    · intro silent
      exact absurd ⟨_, rfl⟩ silent
  | succeeded ends =>
    have phase := StatusWrite.phase_of_ended rfl tells granted ends
    refine ⟨?_, ?_, ?_, ?_⟩
    · obtain ⟨p, found, own, active, accords⟩ := following.pipeline
      exact ⟨p, found, own, active, (ClassReport.ofPipeline?_attached reports).symm ▸ accords⟩
    · intro write' current'
      cases current'
    · intro _
      exact List.count_cons_self.trans (congrArg (· + 1) none_yet)
    · intro report first
      rw [← Option.some.inj first]
      exact phase

/-- The pipeline has gone on. -/
theorem Following.advance {now : String} {clock : Nat} {stage : PipelineStage} {s : Supervisor}
    {k : Cluster} (following : Following c reports w) (reachable : w.Reachable)
    (found : w.supervisor.pipelineOf? c.id = some p)
    (granted : ∀ report write, p.stage.report? = some (report, write) →
      write.Granted (w.supervisor.handler now) p.streamClass report w.cluster)
    (silent : p.stage.report? = none → k.classPhase? c.reference = w.phase? c)
    (taken : w.supervisor.advance now clock p w.cluster = some (stage, s, k)) :
    Following c ((Announcement.over? p.stage.report? stage.report?).toList ++ reports)
      { w with supervisor := s.setPipeline { p with stage := stage }, cluster := k } := by
  have tidy := reachable.sound.tidy
  obtain ⟨own, active, accords⟩ := following.of_found found
  have orderly := reachable.orderly (tidy.pipelineOf? found).1
  have step := Supervisor.pipelineStep_of_advance taken
  generalize standing : p.stage = before at step granted silent accords
  cases step with
  | starts quiet =>
    refine following.silent tidy found rfl (fun e failed => ?_) (silent rfl)
    rw [active, Bool.not_false, Bool.and_true] at quiet
    rw [accords quiet] at failed
    cases failed
  | restarts =>
    exact following.silent tidy found rfl trivial (silent rfl)
  | announcing goes =>
    obtain ⟨rfl, tells⟩ := StatusWrite.tells_of_goes rfl (granted _ _ rfl) goes
    exact following.silent tidy found rfl tells rfl
  | announced ends =>
    refine following.reported tidy found rfl ClassReport.restarted_ne_attached ?_ ?_
    · intro e same
      cases congrArg ClassReport.phase (Option.some.inj same)
    · exact own ▸ StatusWrite.phase_of_ended rfl accords (granted _ _ rfl) ends
  | runs =>
    exact following.silent tidy found rfl accords (silent rfl)
  | completed ended =>
    have told := orderly.told standing (Run.result?_eq_some_iff.1 ended)
    rw [active] at told
    cases told
  | dropped ended told | left told =>
    rw [active] at told
    cases told
  | failed =>
    exact following.silent tidy found rfl trivial (silent rfl)
  | reporting goes =>
    obtain ⟨rfl, tells⟩ := StatusWrite.tells_of_goes rfl (granted _ _ rfl) goes
    exact following.silent tidy found rfl tells rfl
  | reported ends =>
    refine following.reported tidy found rfl (ClassReport.failed_ne_attached _) ⟨_, rfl⟩ ?_
    exact own ▸ StatusWrite.phase_of_ended rfl accords (granted _ _ rfl) ends
  | due =>
    exact following.silent tidy found rfl accords (silent rfl)
  | replaced =>
    -- The handle names the pipeline that was started in place of this one.
    subst own
    have running : w.supervisor.stopped = false := (Bool.or_eq_false_iff.1 active).1
    have spawned := Supervisor.pipelineOf?_restart tidy running found
    have unstopped : (w.supervisor.restart p).stopped = false := by
      rcases Supervisor.restart_cases w.supervisor p with same | ⟨-, same, -⟩ <;> rw [same] <;> exact running
    refine ⟨⟨_, spawned, rfl, ?_, fun silent => by cases silent⟩, following.announcing,
      following.announced, following.phase⟩
    exact Bool.or_eq_false_iff.2 ⟨unstopped, rfl⟩

theorem Following.progress (following : Following c reports w) (reachable : w.Reachable)
    (progress : Progress c w ended v) : Following c (ended.toList ++ reports) v := by
  cases progress with
  | attach current granted taken => exact following.attach current granted taken
  | pipeline found granted silent taken =>
    exact following.advance reachable found granted silent taken
  | others apart =>
    obtain ⟨p, found, own, active, accords⟩ := following.pipeline
    refine ⟨⟨p, apart.pipeline.trans found, own, ?_, accords⟩, ?_, ?_, ?_⟩
    · rw [Supervisor.isCancelled, apart.stopped]
      exact active
    · intro write current
      rcases apart.call with same | ⟨-, silent⟩
      · exact following.announcing (same ▸ current)
      · exact absurd ⟨write, current⟩ silent
    · intro silent
      rcases apart.call with same | ⟨before, -⟩
      · refine following.announced ?_
        rintro ⟨write, current⟩
        exact silent ⟨write, same.trans current⟩
      · exact following.announced before
    · intro report first
      exact apart.phase.trans (following.phase first)

/-- Every course leaves what it should. -/
theorem Course.following (course : Course c (w.started c) reports v) (reachable : w.Reachable)
    (spawning : w.call = some (.attach c .spawning)) (running : w.supervisor.stopped = false) :
    Following c reports v := by
  have began := reachable.step (started_step spawning)
  induction course with
  | start => exact reachable.following_started spawning running
  | step before progress ih => exact ih.progress (before.reachable began) progress

end Session

end StreamOperator
