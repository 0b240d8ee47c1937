import StreamOperator.Proofs.Handler.Confinement
import StreamOperator.Proofs.Supervisor.Reports

/-!
# Writes to the statuses of classes

The phase of a stored class is changed by a report on it and by nothing else that a pipeline or a call
does (`Cluster.AltersPhases`), unless the streams of a pipeline are stream classes themselves. While the
cluster obliges, a report that is over has left its phase in the class, if the class is stored still
(`StatusWrite.shows_of_ended`).
-/

set_option autoImplicit false

namespace StreamOperator

theorem ClassRef.key_inj {ref other : ClassRef} (same : ref.key = other.key) : ref = other := by
  cases ref
  cases other
  simpa [ClassRef.key] using same

namespace Cluster

variable {k k' : Cluster} {ref : ClassRef} {phase : ClassPhase} {which : ClassRef → Prop}

/-- Requests for resources and writes of statuses are not refused. -/
structure Obliges (k : Cluster) : Prop where
  readable : k.failing.contains "get_custom_resource" = false
  writable : k.failing.contains "patch_custom_resource_status" = false

/-- The class tells a phase, if it is stored. -/
def Shows (k : Cluster) (ref : ClassRef) (phase : ClassPhase) : Prop :=
  (k.class? ref).isSome → k.classPhase? ref = some phase

/-- No class is stored that was not, and the phases of all but certain ones stay. -/
structure AltersPhases (which : ClassRef → Prop) (k k' : Cluster) : Prop where
  obliges : k.Obliges → k'.Obliges
  stored : ∀ {ref}, (k'.class? ref).isSome → (k.class? ref).isSome
  phase : ∀ {ref}, ¬ which ref → (k'.class? ref).isSome → k'.classPhase? ref = k.classPhase? ref

/-- No class is stored that was not, and the phases of all classes stay. -/
def SparesPhases (k k' : Cluster) : Prop := k.AltersPhases (fun _ => False) k'

theorem Obliges.of_failing (obliges : k.Obliges) (same : k'.failing = k.failing) : k'.Obliges := by
  constructor <;> rw [same]
  · exact obliges.readable
  · exact obliges.writable

theorem Obliges.accepts (obliges : k.Obliges) (stored : (k.class? ref).isSome) : k.Accepts ref :=
  ⟨stored, obliges.readable, obliges.writable⟩

theorem AltersPhases.of_same (failing : k'.failing = k.failing)
    (same : ∀ ref, k'.class? ref = k.class? ref) : k.AltersPhases which k' where
  obliges obliges := obliges.of_failing failing
  stored {ref} stored := same ref ▸ stored
  phase {ref} _ _ := by rw [classPhase?, same, classPhase?]

theorem AltersPhases.refl (k : Cluster) : k.AltersPhases which k := .of_same rfl fun _ => rfl

theorem AltersPhases.mono {more : ClassRef → Prop} (alters : k.AltersPhases which k')
    (weaken : ∀ ref, which ref → more ref) : k.AltersPhases more k' where
  obliges := alters.obliges
  stored := alters.stored
  phase other := alters.phase fun own => other (weaken _ own)

theorem SparesPhases.alters (spares : k.SparesPhases k') : k.AltersPhases which k' :=
  AltersPhases.mono spares fun _ => False.elim

/-- A class that is not among those that are altered tells the phase that it told. -/
theorem AltersPhases.shows (alters : k.AltersPhases which k') (other : ¬ which ref)
    (told : k.Shows ref phase) : k'.Shows ref phase :=
  fun stored => (alters.phase other stored).trans (told (alters.stored stored))

/-- When one resource is rewritten, which may be a class, no other class is altered. -/
theorem Edits.altersPhases {P : Resource → Resource → Prop} (edits : Edits ref.key P k k') :
    k.AltersPhases (· = ref) k' := by
  have apart : ∀ {other}, other ≠ ref → k'.class? other = k.class? other :=
    fun differ => edits.elsewhere fun own => differ (ClassRef.key_inj own)
  refine ⟨fun obliges => obliges.of_failing edits.failing, ?_, ?_⟩
  · intro other stored
    by_cases own : other = ref
    · subst own
      rcases edits.resources with same | ⟨r, -, found, -, -⟩
      · rwa [class?, resource?, same] at stored
      · exact Option.isSome_of_eq_some found
    · rwa [apart own] at stored
  · intro other differ _
    rw [classPhase?, apart differ, classPhase?]

end Cluster

/-! ## Reports -/

namespace StatusWrite

variable {h : Handler Cluster} {c : StreamClass} {report : ClassReport} {w : StatusWrite}
  {next : Option StatusWrite} {k k' : Cluster}

/-- A step of a report rewrites the class at most. -/
theorem edits_of_step (inMemory : h.api = Cluster.api) (taken : w.step h c report k = (next, k')) :
    ∃ P, Cluster.Edits c.reference.key P k k' := by
  cases w with
  | reading =>
    have reads := Handler.prepareClassStatus_reads inMemory c.reference report.phase
      (report.phase.conditions report.reason report.message) k
    have same : k' = k := by
      unfold step at taken
      dsimp only at taken
      split at taken <;> rename_i prepared <;> cases taken <;> rwa [prepared] at reads
    rw [same]
    exact ⟨fun _ _ => True, .refl k⟩
  | writing status =>
    obtain ⟨-, rfl⟩ := Prod.mk.inj taken
    unfold Handler.commitClassStatus
    rw [inMemory]
    exact ⟨_, Cluster.patchStatus_edits status k⟩

theorem altersPhases_of_step (inMemory : h.api = Cluster.api)
    (taken : w.step h c report k = (next, k')) : k.AltersPhases (· = c.reference) k' := by
  obtain ⟨P, edits⟩ := edits_of_step inMemory taken
  exact edits.altersPhases

/-- What a report does to a class that is stored is granted by a cluster that obliges. -/
theorem granted_of_obliges (inMemory : h.api = Cluster.api) (obliges : k.Obliges)
    (stored : (k.class? c.reference).isSome) : w.Granted h c report k := by
  cases w with
  | reading => exact (granted_of_accepts inMemory (obliges.accepts stored) report).1
  | writing status =>
    obtain ⟨r, found⟩ := Option.isSome_iff_exists.1 stored
    rw [Granted, Handler.commitClassStatus_of_found inMemory found, obliges.writable,
      if_neg Bool.false_ne_true]

/-- When a report is over the class tells its phase, if it is stored still. -/
theorem shows_of_ended (inMemory : h.api = Cluster.api) (obliges : k.Obliges)
    (tells : w.Tells report.phase) (ended : w.step h c report k = (none, k')) :
    k'.Shows c.reference report.phase := by
  intro stored
  have before := (altersPhases_of_step inMemory ended).stored stored
  exact phase_of_ended inMemory tells (granted_of_obliges inMemory obliges before) ended

end StatusWrite

/-! ## Pipelines -/

/-- The streams of the class are stream classes themselves. -/
def StreamClass.GovernsClasses (c : StreamClass) : Prop :=
  c.spec.pluralName = StreamClass.coordinates.plural

theorem Run.Serves.failing_of_step {r r' : Run Resource} {c : StreamClass} {h : Handler Cluster}
    {cancelled : Bool} {k k' : Cluster} (serves : r.Serves c) (inMemory : h.api = Cluster.api)
    (taken : r.step h cancelled k = some (r', k')) : k'.failing = k.failing := by
  rcases (Run.went_of_step taken).2.kept_or_handled serves.leavesFailing inMemory with
    same | ⟨ticket, command, rest, -, changed⟩
  · exact same
  · have spares := (Command.handle_confined inMemory command k).spares
    have kept := congrArg Cluster.failing spares.setting
    rw [changed]
    exact kept

/-- A pipeline alters the phase of its own class at most, and that by its reports. -/
theorem Session.Reachable.altersPhases_of_advance {w : Session} {n : Nat} {p : Pipeline} {now : String}
    {clock : Nat} {stage : PipelineStage} {s : Supervisor} {k : Cluster} (reachable : w.Reachable)
    (found : w.supervisor.pipeline? n = some p)
    (governed : p.stage.report? = none → p.streamClass.GovernsClasses → w.cluster.SparesPhases k)
    (taken : w.supervisor.advance now clock p w.cluster = some (stage, s, k)) :
    w.cluster.AltersPhases (· = p.streamClass.reference) k := by
  have step := Supervisor.pipelineStep_of_advance taken
  have orderly := reachable.orderly found
  generalize standing : p.stage = before at step governed
  cases step with
  | announcing written | announced written | reporting written | reported written =>
    exact StatusWrite.altersPhases_of_step rfl written
  | runs unended went =>
    by_cases governs : p.streamClass.GovernsClasses
    · exact (governed rfl governs).alters
    · have serves := orderly.serves standing
      refine .of_same (serves.failing_of_step rfl went) fun ref => ?_
      exact serves.resource_of_step rfl (fun own => governs own.symm) went
  | _ => exact .refl _

end StreamOperator
