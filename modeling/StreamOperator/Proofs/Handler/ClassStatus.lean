import StreamOperator.Proofs.Handler.Repetition
import StreamOperator.Supervisor.Basic

/-!
# Reports on a class

What is left behind when the writing of a report on a class is over: the stored class tells the phase of
that report, whether there was something to write (`StatusWrite.Tells`) or not
(`StatusWrite.phase_of_ended`). Between its two steps a report holds a status that was prepared from what
was stored before, and it writes this status over whatever has been stored since.
-/

set_option autoImplicit false

namespace StreamOperator

namespace Status

variable {P : Type} [DecidableEq P] {s s' : Status P} {phase : P} {pending : List Condition}
  {now : String}

theorem phase_of_advance_none (same : s.advance now phase pending = none) : s.phase = some phase := by
  unfold advance at same
  dsimp only at same
  split at same
  · rename_i unchanged
    exact unchanged.1
  · cases same

theorem phase_of_advance_some (advanced : s.advance now phase pending = some s') :
    s'.phase = some phase := by
  unfold advance at advanced
  dsimp only at advanced
  split at advanced
  · cases advanced
  · obtain rfl := Option.some.inj advanced
    rfl

end Status

namespace Cluster

variable {k k' : Cluster} {ref : ClassRef} {r : Resource}

/-- The class as it is stored. -/
def class? (k : Cluster) (ref : ClassRef) : Option Resource :=
  k.resource? StreamClass.coordinates ref.space ref.name

/-- The phase that the stored class tells. -/
def classPhase? (k : Cluster) (ref : ClassRef) : Option ClassPhase :=
  (k.class? ref).bind fun r => (Handler.currentClassStatus r).phase

/-- The class is stored, and requests for it and writes of its status are not refused. -/
structure Accepts (k : Cluster) (ref : ClassRef) : Prop where
  stored : (k.class? ref).isSome
  readable : k.failing.contains "get_custom_resource" = false
  writable : k.failing.contains "patch_custom_resource_status" = false

/-- The cluster after the status of a class was written. -/
def afterClassStatus (k : Cluster) (ref : ClassRef) (r : Resource) (status : Json) : Cluster :=
  k.afterResource ⟨StreamClass.coordinates.plural, ref.space, ref.name⟩
    { r with data := r.data.insert "status" status }
    (patchCall StreamClass.coordinates ref.space ref.name status)

theorem class?_afterClassStatus (status : Json) :
    (k.afterClassStatus ref r status).class? ref = some (restated r status k.nextVersion) :=
  afterResource_target

theorem classPhase?_afterClassStatus (s : ClassStatus) :
    (k.afterClassStatus ref r s.encode).classPhase? ref = s.phase := by
  rw [classPhase?, class?_afterClassStatus, Option.bind_some, Handler.currentClassStatus_restated]

theorem Accepts.afterClassStatus (accepts : k.Accepts ref) (r : Resource) (status : Json) :
    (k.afterClassStatus ref r status).Accepts ref where
  stored := by rw [class?_afterClassStatus]; rfl
  readable := accepts.readable
  writable := accepts.writable

end Cluster

namespace Handler

variable {h : Handler Cluster} {ref : ClassRef} {phase : ClassPhase} {pending : List Condition}
  {k : Cluster} {r : Resource} {status : Json}

theorem prepareClassStatus_apply (inMemory : h.api = Cluster.api) :
    h.prepareClassStatus ref phase pending k =
      if k.failing.contains "get_custom_resource" then (.error Cluster.injected, k)
      else (.ok ((k.class? ref).bind fun r =>
        ((currentClassStatus r).advance h.now phase pending).map ClassStatus.encode), k) := by
  have request : h.api.getResource = Cluster.getResource := by rw [inMemory]; rfl
  unfold prepareClassStatus
  rw [request, Cluster.getResource_bind]
  split
  · rfl
  · unfold Cluster.class?
    cases k.resource? StreamClass.coordinates ref.space ref.name <;> rfl

theorem commitClassStatus_of_found (inMemory : h.api = Cluster.api) (found : k.class? ref = some r) :
    h.commitClassStatus ref status k =
      if k.failing.contains "patch_custom_resource_status" then (.error Cluster.injected, k)
      else (.ok (), k.afterClassStatus ref r status) := by
  unfold commitClassStatus
  rw [inMemory]
  exact Cluster.patchStatus_of_found found status

/-- A status that was written was written to a class that is stored. -/
theorem commitClassStatus_of_ok (inMemory : h.api = Cluster.api)
    (written : (h.commitClassStatus ref status k).1 = .ok ()) :
    ∃ r, k.class? ref = some r ∧
      h.commitClassStatus ref status k = (.ok (), k.afterClassStatus ref r status) := by
  cases found : k.class? ref with
  | some r =>
    rw [commitClassStatus_of_found inMemory found] at written ⊢
    split at written
    · cases written
    · rename_i granted
      exact ⟨r, rfl, if_neg granted⟩
  | none =>
    have missing : Cluster.resource? { k with version := k.version + 1 }
        StreamClass.coordinates ref.space ref.name = none := found
    have refused : ∀ change, Cluster.changeResource StreamClass.coordinates ref.space ref.name change k
        = (.error (Cluster.refusal 404 "not found"), { k with version := k.version + 1 }) := by
      intro change
      unfold Cluster.changeResource
      rw [Act.bind_ok (Cluster.newVersion_apply k), Act.bind_ok (Act.get_apply _), missing]
      rfl
    have patch : h.api.patchStatus = Cluster.patchStatus := by rw [inMemory]; rfl
    rw [commitClassStatus, patch, Cluster.patchStatus, Cluster.guardOperation_bind] at written
    split at written
    · cases written
    · rw [Act.bind_error (refused _)] at written
      cases written

end Handler

/-! ## Reports -/

/-- The conditions that go with a report. -/
def ClassReport.conditions (report : ClassReport) : List Condition :=
  report.phase.conditions report.reason report.message

namespace StatusWrite

variable {h : Handler Cluster} {c : StreamClass} {report : ClassReport} {w w' : StatusWrite}
  {k k' : Cluster}

/-- The status that is about to be written, if there is one already, tells a phase. -/
def Tells (phase : ClassPhase) : StatusWrite → Prop
  | reading => True
  | writing status => ∃ s : ClassStatus, status = s.encode ∧ s.phase = some phase

/-- The next step of a report succeeds: the class is found, or the status is written. -/
def Granted (h : Handler Cluster) (c : StreamClass) (report : ClassReport) (k : Cluster) :
    StatusWrite → Prop
  | reading => (k.class? c.reference).isSome ∧ ∃ prepared,
    (h.prepareClassStatus c.reference report.phase report.conditions k).1 = .ok prepared
  | writing status => (h.commitClassStatus c.reference status k).1 = .ok ()

theorem step_reading (inMemory : h.api = Cluster.api) (readable :
    k.failing.contains "get_custom_resource" = false) : reading.step h c report k =
      (((k.class? c.reference).bind fun r => ((Handler.currentClassStatus r).advance h.now report.phase
        report.conditions).map ClassStatus.encode).map writing, k) := by
  have prepared : h.prepareClassStatus c.reference report.phase report.conditions k = _ :=
    Handler.prepareClassStatus_apply inMemory
  rw [readable, if_neg Bool.false_ne_true, ClassReport.conditions] at prepared
  rw [step, prepared, ClassReport.conditions]
  cases (k.class? c.reference).bind fun r => ((Handler.currentClassStatus r).advance h.now report.phase
    (report.phase.conditions report.reason report.message)).map ClassStatus.encode <;> rfl

theorem readable_of_granted (inMemory : h.api = Cluster.api)
    (granted : reading.Granted h c report k) :
    k.failing.contains "get_custom_resource" = false := by
  obtain ⟨-, prepared, read⟩ := granted
  rw [Handler.prepareClassStatus_apply inMemory] at read
  split at read
  · cases read
  · rename_i granted
    simpa using granted

/-- A report that goes on has prepared a status with its phase, and nothing was written yet. -/
theorem tells_of_readable (inMemory : h.api = Cluster.api)
    (readable : k.failing.contains "get_custom_resource" = false)
    (goes : w.step h c report k = (some w', k')) : k' = k ∧ w'.Tells report.phase := by
  cases w with
  | writing status => cases goes
  | reading =>
    rw [step_reading inMemory readable, Prod.mk.injEq] at goes
    obtain ⟨prepared, rfl⟩ := goes
    obtain ⟨status, read, rfl⟩ := Option.map_eq_some_iff.1 prepared
    obtain ⟨r, -, written⟩ := Option.bind_eq_some_iff.1 read
    obtain ⟨s, advanced, rfl⟩ := Option.map_eq_some_iff.1 written
    exact ⟨rfl, s, rfl, Status.phase_of_advance_some advanced⟩

theorem tells_of_goes (inMemory : h.api = Cluster.api) (granted : w.Granted h c report k)
    (goes : w.step h c report k = (some w', k')) : k' = k ∧ w'.Tells report.phase := by
  cases w with
  | writing status => cases goes
  | reading => exact tells_of_readable inMemory (readable_of_granted inMemory granted) goes

/-- When a report is over the stored class tells its phase. -/
theorem phase_of_ended (inMemory : h.api = Cluster.api) (tells : w.Tells report.phase)
    (granted : w.Granted h c report k) (ended : w.step h c report k = (none, k')) :
    k'.classPhase? c.reference = some report.phase := by
  cases w with
  | writing status =>
    obtain ⟨s, rfl, phase⟩ := tells
    obtain ⟨r, -, written⟩ := Handler.commitClassStatus_of_ok inMemory granted
    rw [step, written, Prod.mk.injEq] at ended
    rw [← ended.2, Cluster.classPhase?_afterClassStatus, phase]
  | reading =>
    obtain ⟨r, found⟩ := Option.isSome_iff_exists.1 granted.1
    rw [step_reading inMemory (readable_of_granted inMemory granted), Prod.mk.injEq,
      Option.map_eq_none_iff, found, Option.bind_some, Option.map_eq_none_iff] at ended
    obtain ⟨same, rfl⟩ := ended
    rw [Cluster.classPhase?, found, Option.bind_some, Status.phase_of_advance_none same]

/-- A report that the cluster accepts is over after one step or two, and the next one is accepted too. -/
theorem granted_of_accepts (inMemory : h.api = Cluster.api) (accepts : k.Accepts c.reference)
    (report : ClassReport) : reading.Granted h c report k ∧
      (reading.step h c report k = (none, k) ∨
        ∃ status k', reading.step h c report k = (some (writing status), k) ∧
          (writing status).Granted h c report k ∧
          (writing status).step h c report k = (none, k') ∧ k'.Accepts c.reference) := by
  obtain ⟨r, found⟩ := Option.isSome_iff_exists.1 accepts.stored
  have step : reading.step h c report k = _ := step_reading inMemory accepts.readable
  rw [found, Option.bind_some] at step
  have prepared : h.prepareClassStatus c.reference report.phase report.conditions k = _ :=
    Handler.prepareClassStatus_apply inMemory
  rw [accepts.readable, if_neg Bool.false_ne_true] at prepared
  refine ⟨⟨accepts.stored, _, congrArg Prod.fst prepared⟩, ?_⟩
  cases advanced : (Handler.currentClassStatus r).advance h.now report.phase report.conditions with
  | none =>
    rw [advanced] at step
    exact .inl step
  | some s =>
    rw [advanced] at step
    have written : h.commitClassStatus c.reference (ClassStatus.encode s) k
        = (.ok (), k.afterClassStatus c.reference r (ClassStatus.encode s)) := by
      rw [Handler.commitClassStatus_of_found inMemory found, accepts.writable, if_neg Bool.false_ne_true]
    refine .inr ⟨_, _, step, congrArg Prod.fst written, ?_, accepts.afterClassStatus r (ClassStatus.encode s)⟩
    rw [StatusWrite.step, written]

end StatusWrite

end StreamOperator
