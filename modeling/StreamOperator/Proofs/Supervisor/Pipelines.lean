import StreamOperator.Supervisor.Call
import StreamOperator.Supervisor.Pipeline

/-!
# The pipelines and handles of a supervisor

What the operations of the supervisor do to the table of pipelines and to the handles, and what a step
of a pipeline or of a call can do at all. Later proofs look a pipeline up through these lemmas and
take steps apart by `pipelineStep_of_advance`, `advance_cases` and `restart_cases`; they do not open the
operations.
-/

set_option autoImplicit false

namespace StreamOperator.Supervisor

variable {s t : Supervisor} {p q : Pipeline} {c : StreamClass} {n m : Nat}

/-- The table of pipelines is as the supervisor keeps it: each pipeline stands under its number, has
not ended, and its number was given out. -/
structure Tidy (s : Supervisor) : Prop where
  seq_eq : ∀ {n p}, s.pipeline? n = some p → p.seq = n
  unfinished : ∀ {n p}, s.pipeline? n = some p → p.isFinished = false
  seq_lt : ∀ {n p}, s.pipeline? n = some p → n < s.nextSeq

/-! ## Operations -/

@[simp] theorem nextSeq_setPipeline : (s.setPipeline p).nextSeq = s.nextSeq := rfl

theorem pipeline?_setPipeline : (s.setPipeline p).pipeline? n =
    if n = p.seq then if p.isFinished then none else some p else s.pipeline? n := by
  by_cases finished : p.isFinished = true
  · simp [setPipeline, pipeline?, finished, Table.get?_erase]
  · simp [setPipeline, pipeline?, finished, Table.get?_set]

@[simp] theorem handles_cancel : (s.cancel m).handles = s.handles := by
  unfold cancel
  split <;> rfl

@[simp] theorem stopped_cancel : (s.cancel m).stopped = s.stopped := by
  unfold cancel
  split <;> rfl

@[simp] theorem nextSeq_cancel : (s.cancel m).nextSeq = s.nextSeq := by
  unfold cancel
  split <;> rfl

/-- The pipeline with a number is told to stop; all others stay as they are. -/
theorem pipeline?_cancel (tidy : s.Tidy) : (s.cancel m).pipeline? n =
    if n = m then (s.pipeline? m).map fun p => { p with cancelled := true } else s.pipeline? n := by
  cases found : s.pipeline? m with
  | none =>
    have unchanged : s.cancel m = s := by simp [cancel, found]
    rw [unchanged]
    split
    · rename_i same
      rw [same, found]
      rfl
    · rfl
  | some p =>
    obtain rfl : p.seq = m := tidy.seq_eq found
    have unfinished : p.isFinished = false := tidy.unfinished found
    have told : s.cancel p.seq = s.setPipeline { p with cancelled := true } := by
      simp [cancel, found]
    rw [told, pipeline?_setPipeline]
    change (if n = p.seq then if p.isFinished then none else some _ else _) = _
    rw [unfinished]
    rfl

@[simp] theorem nextSeq_spawn (restarted : Bool) : (s.spawn c restarted).nextSeq = s.nextSeq + 1 :=
  rfl

theorem pipeline?_spawn (restarted : Bool) : (s.spawn c restarted).pipeline? n =
    if n = s.nextSeq then some ⟨c, s.nextSeq, false, .starting restarted⟩ else s.pipeline? n := by
  simp [spawn, pipeline?, Table.get?_set]

theorem handle?_spawn (id : String) (restarted : Bool) :
    Table.get? id (s.spawn c restarted).handles =
      if id = c.id then some ⟨c, c.metadata.generation, s.nextSeq⟩
      else Table.get? id s.handles := by
  simp [spawn, Table.get?_set]

theorem hasFinished_iff : s.hasFinished n = true ↔ s.pipeline? n = none := by
  simp [hasFinished]

/-! ## Tables that are kept -/

/-- Telling any pipeline to stop keeps the table. -/
theorem Tidy.cancel (tidy : s.Tidy) : (s.cancel m).Tidy := by
  have origin : ∀ {n p}, (s.cancel m).pipeline? n = some p →
      ∃ q, s.pipeline? n = some q ∧ p.seq = q.seq ∧ p.isFinished = q.isFinished := by
    intro n p found
    rw [pipeline?_cancel tidy] at found
    split at found
    · rename_i same
      subst same
      obtain ⟨q, hq, rfl⟩ := Option.map_eq_some_iff.1 found
      exact ⟨q, hq, rfl, rfl⟩
    · exact ⟨p, found, rfl, rfl⟩
  constructor <;> intro n p found
  · obtain ⟨q, hq, seq, -⟩ := origin found
    rw [seq, tidy.seq_eq hq]
  · obtain ⟨q, hq, -, finished⟩ := origin found
    rw [finished, tidy.unfinished hq]
  · obtain ⟨q, hq, -, -⟩ := origin found
    simpa using tidy.seq_lt hq

theorem Tidy.spawn (tidy : s.Tidy) (restarted : Bool) : (s.spawn c restarted).Tidy := by
  constructor <;> intro n p found <;> rw [pipeline?_spawn] at found <;> split at found
  · rename_i same
    obtain rfl := Option.some.inj found
    exact same.symm
  · exact tidy.seq_eq found
  · obtain rfl := Option.some.inj found
    rfl
  · exact tidy.unfinished found
  · rename_i same
    simp [same]
  · have given : n < s.nextSeq := tidy.seq_lt found
    simp only [nextSeq_spawn]
    omega

/-- What became of a pipeline with a number that was given out is kept. -/
theorem Tidy.setPipeline (tidy : s.Tidy) (given : p.seq < s.nextSeq) : (s.setPipeline p).Tidy := by
  constructor <;> intro n q found <;> rw [pipeline?_setPipeline] at found <;> split at found
  · rename_i same
    split at found
    · cases found
    · obtain rfl := Option.some.inj found
      exact same.symm
  · exact tidy.seq_eq found
  · split at found
    · cases found
    · rename_i unfinished
      obtain rfl := Option.some.inj found
      simpa using unfinished
  · exact tidy.unfinished found
  · rename_i same
    simpa [same] using given
  · exact tidy.seq_lt found

/-- The handles play no part in the table of pipelines. -/
theorem Tidy.withHandles (tidy : s.Tidy) (handles : Table String Handle) :
    Tidy { s with handles := handles } :=
  ⟨tidy.seq_eq, tidy.unfinished, tidy.seq_lt⟩

/-! ## Steps -/

/-- A pipeline starts another one only when its own handle still stands and nobody stopped the
supervisor. -/
theorem restart_cases (s : Supervisor) (p : Pipeline) : s.restart p = s ∨
    s.stopped = false ∧ s.restart p = s.spawn p.streamClass true ∧
      ∃ handle, Table.get? p.streamClass.id s.handles = some handle ∧ handle.seq = p.seq := by
  unfold restart
  cases found : Table.get? p.streamClass.id s.handles with
  | none => simp
  | some handle =>
    by_cases own : handle.seq = p.seq
    · cases stopped : s.stopped with
      | true => simp
      | false => exact .inr ⟨rfl, by simp [own], handle, rfl, own⟩
    · simp [own]

/-- All that one step of a pipeline can do, with what decides it. -/
inductive PipelineStep (s : Supervisor) (now : String) (clock : Nat) (p : Pipeline) (k : Cluster) :
    PipelineStage → PipelineStage → Supervisor → Cluster → Prop where
  | starts {restarted : Bool} (silent : (restarted && !s.isCancelled p) = false) :
      PipelineStep s now clock p k (.starting restarted)
        (.running (Run.ofClass p.streamClass s.dedupCapacity)) s k
  /-- A pipeline that was restarted reports that before it runs. -/
  | restarts (active : s.isCancelled p = false) :
      PipelineStep s now clock p k (.starting true) (.announcing .reading) s k
  | announcing {write write' : StatusWrite} {k' : Cluster}
      (goes : write.step (s.handler now) p.streamClass .restarted k = (some write', k')) :
      PipelineStep s now clock p k (.announcing write) (.announcing write') s k'
  | announced {write : StatusWrite} {k' : Cluster}
      (ends : write.step (s.handler now) p.streamClass .restarted k = (none, k')) :
      PipelineStep s now clock p k (.announcing write)
        (.running (Run.ofClass p.streamClass s.dedupCapacity)) s k'
  | runs {run run' : Run Resource} {k' : Cluster} (unended : run.result? = none)
      (went : run.step (s.handler now) (s.isCancelled p) k = some (run', k')) :
      PipelineStep s now clock p k (.running run) (.running run') s k'
  | completed {run : Run Resource} (ended : run.result? = some (.ok ())) :
      PipelineStep s now clock p k (.running run) .finished s k
  | dropped {run : Run Resource} {e : Failure} (ended : run.result? = some (.error e))
      (told : s.isCancelled p = true) : PipelineStep s now clock p k (.running run) .finished s k
  | failed {run : Run Resource} {e : Failure} (ended : run.result? = some (.error e))
      (active : s.isCancelled p = false) :
      PipelineStep s now clock p k (.running run) (.reporting e .reading) s k
  | reporting {e : Failure} {write write' : StatusWrite} {k' : Cluster}
      (goes : write.step (s.handler now) p.streamClass (.failed e) k = (some write', k')) :
      PipelineStep s now clock p k (.reporting e write) (.reporting e write') s k'
  | reported {e : Failure} {write : StatusWrite} {k' : Cluster}
      (ends : write.step (s.handler now) p.streamClass (.failed e) k = (none, k')) :
      PipelineStep s now clock p k (.reporting e write) (.waiting (clock + s.restartDelay)) s k'
  | left {due : Nat} (told : s.isCancelled p = true) :
      PipelineStep s now clock p k (.waiting due) .finished s k
  | due {due : Nat} (active : s.isCancelled p = false) (reached : due ≤ clock) :
      PipelineStep s now clock p k (.waiting due) .restarting s k
  | replaced : PipelineStep s now clock p k .restarting .finished (s.restart p) k

theorem pipelineStep_of_advance {now : String} {clock : Nat} {k k' : Cluster} {stage : PipelineStage}
    (taken : s.advance now clock p k = some (stage, t, k')) :
    s.PipelineStep now clock p k p.stage stage t k' := by
  unfold advance at taken
  cases standing : p.stage with
  | starting restarted =>
    simp only [standing] at taken
    cases silent : restarted && !s.isCancelled p with
    | false =>
      rw [silent] at taken
      cases taken
      exact .starts silent
    | true =>
      obtain ⟨rfl, active⟩ : restarted = true ∧ s.isCancelled p = false := by simpa using silent
      rw [active] at taken
      cases taken
      exact .restarts active
  | announcing write =>
    simp only [standing] at taken
    split at taken
    · rename_i goes
      cases taken
      exact .announcing goes
    · rename_i ends
      cases taken
      exact .announced ends
  | running run =>
    simp only [standing] at taken
    split at taken
    · rename_i ended
      cases taken
      exact .completed ended
    · rename_i ended
      cases active : s.isCancelled p with
      | false =>
        rw [active] at taken
        cases taken
        exact .failed ended active
      | true =>
        rw [active] at taken
        cases taken
        exact .dropped ended active
    · rename_i unended
      obtain ⟨⟨after, k''⟩, went, same⟩ := Option.map_eq_some_iff.1 taken
      cases same
      exact .runs unended went
  | reporting e write =>
    simp only [standing] at taken
    split at taken
    · rename_i goes
      cases taken
      exact .reporting goes
    · rename_i ends
      cases taken
      exact .reported ends
  | waiting due =>
    simp only [standing] at taken
    cases active : s.isCancelled p with
    | true =>
      rw [active] at taken
      cases taken
      exact .left active
    | false =>
      rw [active, if_neg Bool.false_ne_true] at taken
      split at taken
      · rename_i reached
        cases taken
        exact .due active reached
      · cases taken
  | restarting =>
    simp only [standing] at taken
    cases taken
    exact .replaced
  | finished =>
    simp only [standing] at taken
    cases taken

/-- A step of a pipeline leaves the supervisor alone, unless the pipeline is restarted, with which it
ends. -/
theorem advance_cases {now : String} {clock : Nat} {k k' : Cluster} {stage : PipelineStage}
    (h : s.advance now clock p k = some (stage, t, k')) :
    t = s ∨ stage = .finished ∧ t = s.restart p := by
  have step := pipelineStep_of_advance h
  generalize p.stage = before at step
  cases step with
  | replaced => exact .inr ⟨rfl, rfl⟩
  | _ => exact .inl rfl

/-- Whatever stage a pipeline enters, its number, class and token stay the same. -/
theorem origin_of_setPipeline (found : s.pipeline? p.seq = some p) (stage : PipelineStage)
    (hq : (s.setPipeline { p with stage := stage }).pipeline? n = some q) :
    ∃ p, s.pipeline? n = some p ∧ q.streamClass = p.streamClass ∧ q.cancelled = p.cancelled := by
  rw [pipeline?_setPipeline] at hq
  split at hq
  · rename_i same
    split at hq
    · cases hq
    · obtain rfl := Option.some.inj hq
      rw [same]
      exact ⟨p, found, rfl, rfl⟩
  · exact ⟨q, hq, rfl, rfl⟩

/-- A step of a pipeline keeps the handles and the identity of every pipeline, or it replaces the
pipeline, whose own handle still stands, by a new one of the same class. -/
theorem stepPipeline_cases {now : String} {clock : Nat} {k k' : Cluster} (tidy : s.Tidy)
    (h : s.stepPipeline now clock m k = some (t, k')) :
    (t.Tidy ∧ t.handles = s.handles ∧ t.stopped = s.stopped ∧
      ∀ {n q}, t.pipeline? n = some q →
        ∃ p, s.pipeline? n = some p ∧ q.streamClass = p.streamClass ∧ q.cancelled = p.cancelled) ∨
    ∃ c handle, t.Tidy ∧ s.stopped = false ∧ t.stopped = false ∧
      Table.get? c.id s.handles = some handle ∧
      (∀ id, Table.get? id t.handles =
        if id = c.id then some ⟨c, c.metadata.generation, s.nextSeq⟩ else Table.get? id s.handles) ∧
      ∀ {n q}, t.pipeline? n = some q →
        n ≠ handle.seq ∧ (n = s.nextSeq ∧ q.streamClass = c ∨ s.pipeline? n = some q) := by
  obtain ⟨p, found, taken⟩ := Option.bind_eq_some_iff.1 h
  obtain ⟨⟨stage, s', k''⟩, advanced, same⟩ := Option.map_eq_some_iff.1 taken
  obtain ⟨rfl, -⟩ : s'.setPipeline { p with stage := stage } = t ∧ k'' = k' := by simpa using same
  obtain rfl : p.seq = m := tidy.seq_eq found
  have given : p.seq < s.nextSeq := tidy.seq_lt found
  rcases advance_cases advanced with rfl | ⟨rfl, rfl⟩
  · exact .inl ⟨tidy.setPipeline given, rfl, rfl, origin_of_setPipeline found stage⟩
  · rcases restart_cases s p with unchanged | ⟨running, replaced, handle, own, seq⟩
    · rw [unchanged]
      exact .inl ⟨tidy.setPipeline given, rfl, rfl, origin_of_setPipeline found .finished⟩
    · rw [replaced]
      refine .inr ⟨p.streamClass, handle, (tidy.spawn true).setPipeline (Nat.lt_succ_of_lt given),
        running, running, own, fun id => handle?_spawn id true, ?_⟩
      intro n q hq
      rw [pipeline?_setPipeline] at hq
      split at hq
      · simp [Pipeline.isFinished] at hq
      · rename_i other
        rw [pipeline?_spawn] at hq
        refine ⟨seq ▸ other, ?_⟩
        split at hq
        · rename_i new
          obtain rfl := Option.some.inj hq
          exact .inl ⟨new, rfl⟩
        · exact .inr hq

theorem stopped_of_stepPipeline {now : String} {clock : Nat} {k k' : Cluster} (tidy : s.Tidy)
    (h : s.stepPipeline now clock m k = some (t, k')) : t.stopped = s.stopped := by
  rcases stepPipeline_cases tidy h with ⟨-, -, same, -⟩ | ⟨-, -, -, running, running', -⟩
  · exact same
  · rw [running, running']

end StreamOperator.Supervisor
