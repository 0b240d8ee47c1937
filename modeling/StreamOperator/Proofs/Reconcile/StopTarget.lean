import StreamOperator.Proofs.Decision.StartStop
import StreamOperator.Proofs.Reconcile.Soundness

/-!
# Which job a stop deletes

A stop names its job by namespace and name, and a replacement has the same name. The main statement is
`stop_deletes_sighted_job_iff`: the job that a stop deletes is the one it was decided on exactly when
that one has not been deleted before. `stop_deletes_replacement` shows that it can happen otherwise.
-/

set_option autoImplicit false

namespace StreamOperator.World

variable {w v start : World} {actor : Actor} {setting : Setting}
  {moves : List Move} {command : Command} {rest : List Command} {key : JobKey} {space name : String}

/-- The job that the commands of a reconciler were decided on. -/
def sighting (w : World) : Actor → Option Sighting
  | .streams => w.streamBasis.bind Prod.snd
  | .jobs => w.jobBasis.map fun (event, n) => ⟨event.resource, n⟩

/-- A stop was decided on a job of its name, which had been created by then. -/
theorem Sound.sighting_of_stop (sound : w.Sound)
    (current : w.commands actor = .stopJob space name :: rest) :
    ∃ seen, w.sighting actor = some seen ∧ seen.job.key = ⟨space, name⟩ ∧
      seen.incarnation ≤ w.created ⟨space, name⟩ := by
  cases actor with
  | streams =>
    obtain ⟨event, found, basis, decided⟩ := sound.streamDecided (mem_commands current)
    obtain ⟨job, stored, own⟩ := Definition.stop_of_mem_react decided
    obtain ⟨seen, rfl, rfl⟩ := Option.map_eq_some_iff.1 stored
    have known := sound.seen basis
    rw [own] at known
    exact ⟨seen, by rw [sighting, basis]; rfl, own, known⟩
  | jobs =>
    obtain ⟨event, n, owner, basis, decided⟩ := sound.jobDecided (mem_commands current)
    have own := Job.stop_of_mem_react decided
    have known := sound.taken basis
    rw [own] at known
    exact ⟨⟨event.resource, n⟩, by rw [sighting, basis]; rfl, own, known⟩

/-- Jobs of one name are numbered in the order of their creation. A job that goes when a reconciler
carries out a command has the name of the job that the command was decided on. It is the same job, by
its number, exactly when that one has not been deleted before. -/
theorem stop_deletes_sighted_job_iff (initial : start.Initial) (ran : start.run moves = some w)
    (moved : w.step (.work actor setting) = some v)
    (before : Table.contains key w.cluster.jobs = true)
    (after : Table.contains key v.cluster.jobs = false) :
    ∃ space name rest seen, w.commands actor = .stopJob space name :: rest ∧
      w.sighting actor = some seen ∧ seen.job.key = key ∧
      (v.deleted key = seen.incarnation ↔ w.deleted key < seen.incarnation) := by
  have sound : w.Sound := initial.sound.run ran
  rcases work_jobEffect moved with same | ⟨command, rest, current, effect⟩
  · rw [same, before] at after
    cases after
  · obtain ⟨space, name, rfl, rfl⟩ := effect.of_removed before after
    obtain ⟨seen, sighted, own, known⟩ := sound.sighting_of_stop current
    refine ⟨space, name, rest, seen, current, sighted, own, ?_⟩
    have counted := sound.balance ⟨space, name⟩
    have deleted := work_deleted moved ⟨space, name⟩
    rw [before] at counted deleted
    rw [after] at deleted
    simp only [Bool.not_false, Bool.and_self, Bool.toNat_true] at counted deleted
    constructor
    · intro same
      omega
    · intro notYet
      omega

/-! ## Restarts of the job in `Orders` -/

section Orders

/-- The job is asked to restart, and the job reconciler decides on that. -/
def restartMoves : List Move :=
  [.others (Orders.cluster (Orders.definition "1" none) [Orders.job "3" (some .restartRequested) []]) "",
    .take .jobs, Orders.work .jobs]

/-- The job is asked to restart and then finishes, while the definition changes. The job reconciler
deletes the job on the first of the two events, the stream reconciler starts a new one, and the job
reconciler decides on the second event. -/
def replacementMoves : List Move :=
  [.others (Orders.cluster (Orders.definition "3" none)
      [Orders.job "4" (some .restartRequested) []]) "",
    .others (Orders.cluster (Orders.definition "3" none)
      [Orders.job "5" (some .restartRequested) [("Complete", "True")]]) "",
    .take .jobs, Orders.work .jobs, .work .jobs (Orders.setting "20"), Orders.work .jobs,
    .take .streams, Orders.work .streams, Orders.work .streams,
    .take .jobs, Orders.work .jobs]

/-- A job that is asked to restart is stopped on the event that says so, and it is the job of that
event. -/
theorem stop_deletes_restarting_job : ∃ (w v : World) (seen : Sighting),
    w.step (.work .jobs (Orders.setting "20")) = some v ∧ w.sighting .jobs = some seen ∧
      w.deleted Orders.key = 0 ∧ v.deleted Orders.key = seen.incarnation := by
  have evaluated : ((Orders.atRest.run restartMoves).bind fun w =>
      (w.step (.work .jobs (Orders.setting "20"))).map fun v =>
        (Table.contains Orders.key w.cluster.jobs, Table.contains Orders.key v.cluster.jobs,
          w.deleted Orders.key, (w.sighting .jobs).map Sighting.incarnation))
      = some (true, false, 0, some 1) := by
    decide +kernel
  obtain ⟨w, ran, rest⟩ := Option.bind_eq_some_iff.1 evaluated
  obtain ⟨v, moved, facts⟩ := Option.map_eq_some_iff.1 rest
  simp only [Prod.mk.injEq] at facts
  obtain ⟨before, after, deleted, number⟩ := facts
  obtain ⟨_, _, _, seen, -, sighted, -, same⟩ :=
    stop_deletes_sighted_job_iff Orders.atRest_initial ran moved before after
  have first : seen.incarnation = 1 := by simpa [sighted] using number
  exact ⟨w, v, seen, moved, sighted, deleted, same.2 (by omega)⟩

/-- Two events report that a job is to restart, the second one that it has finished, too. The job is
deleted on the first event, the stream reconciler starts a new one, and that is deleted on the second
event. -/
theorem stop_deletes_replacement : ∃ (start w v : World) (moves : List Move) (seen : Sighting),
    start.Initial ∧ start.run moves = some w ∧
      w.step (.work .jobs (Orders.setting "21")) = some v ∧
      Table.contains Orders.key w.cluster.jobs = true ∧
      Table.contains Orders.key v.cluster.jobs = false ∧
      w.sighting .jobs = some seen ∧ seen.incarnation = 1 ∧ v.deleted Orders.key = 2 := by
  have evaluated : ((Orders.atRest.run replacementMoves).bind fun w =>
      (w.step (.work .jobs (Orders.setting "21"))).map fun v =>
        (Table.contains Orders.key w.cluster.jobs, Table.contains Orders.key v.cluster.jobs,
          (w.sighting .jobs).map Sighting.incarnation, v.deleted Orders.key))
      = some (true, false, some 1, 2) := by
    decide +kernel
  obtain ⟨w, ran, rest⟩ := Option.bind_eq_some_iff.1 evaluated
  obtain ⟨v, moved, facts⟩ := Option.map_eq_some_iff.1 rest
  simp only [Prod.mk.injEq] at facts
  obtain ⟨before, after, number, deleted⟩ := facts
  obtain ⟨seen, sighted, first⟩ := Option.map_eq_some_iff.1 number
  exact ⟨Orders.atRest, w, v, replacementMoves, seen, Orders.atRest_initial, ran, moved, before, after,
    sighted, first, deleted⟩

end Orders

end StreamOperator.World
