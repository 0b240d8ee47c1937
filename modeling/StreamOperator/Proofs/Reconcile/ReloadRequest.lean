import StreamOperator.Proofs.Decision.StartStop
import StreamOperator.Proofs.Reconcile.Soundness

/-!
# What becomes of a requested reload

A reload is requested by an annotation of the definition. The stream reconciler takes the annotation
away and marks the job, and the job reconciler starts a backfill when it hears that the marked job is
gone. The main statement is `next_job_backfills_iff`: the next job is a backfill exactly when its start
was decided on an event in which the request still shows. It fails to show in two kinds of events
(`OverlooksReload`): the definition was modified and is without the annotation while there is no job,
or a job is gone that was not marked. `requested_reload_is_lost` shows that the first of them can come
between: the stream reconciler may hear that the annotation was taken away when the job is gone already.
-/

set_option autoImplicit false

namespace StreamOperator.World

variable {w v u : World} {d : Definition} {actor : Actor} {setting : Setting}

/-- The stream reconciler has decided on a requested reload of a stream that has a job. -/
structure ReloadDecided (w : World) (d : Definition) (job : Job) : Prop where
  requested : d.isReloadRequested = true
  basis : ∃ incarnation, w.streamBasis = some (⟨.modified, d.resource⟩, some ⟨job, incarnation⟩)
  commands : w.commands .streams = [.dropReloadRequest d, .requestReload job]

/-- After any moves the stream reconciler has decided on a requested reload, and after any others no
job of the stream has been created yet. -/
def ReloadPending (u : World) (d : Definition) : Prop :=
  ∃ (start w : World) (job : Job) (before after : List Move), start.Initial ∧
    start.run before = some w ∧ w.ReloadDecided d job ∧ w.run after = some u ∧
    u.created d.jobKey = w.created d.jobKey

/-- What a reconciler decided on shows that a backfill is wanted: a definition that is listed or has the
request, or a job that was marked. -/
def ShowsBackfill (w : World) : Actor → Prop
  | .streams => ∃ event found, w.streamBasis = some (event, found) ∧
      (event.type = .added ∨ (event.definition w.kind).isReloadRequested = true)
  | .jobs => ∃ event n, w.jobBasis = some (event, n) ∧
      (event.resource.isReloadRequested = true ∨ event.resource.isSchemaMismatch = true)

/-- The request does not show in what a reconciler decided on: the definition was modified, is without it
and had no job, or a job is gone that was not marked. -/
def OverlooksReload (w : World) : Actor → Prop
  | .streams => ∃ r, w.streamBasis = some (⟨.modified, r⟩, none) ∧
      (Definition.mk r w.kind).isReloadRequested = false
  | .jobs => ∃ job n, w.jobBasis = some (⟨.deleted, job⟩, n) ∧
      job.isReloadRequested = false ∧ job.isSchemaMismatch = false

/-- A start that is to be carried out is a backfill if that shows in what it was decided on. -/
theorem Sound.backfilling_of_start {d : Definition} {backfilling : Bool} {rest : List Command}
    (sound : w.Sound) (current : w.commands actor = .startJob d backfilling :: rest) :
    backfilling = true ↔ w.ShowsBackfill actor := by
  cases actor with
  | streams =>
    obtain ⟨event, found, basis, decided⟩ := sound.streamDecided (mem_commands current)
    obtain ⟨-, -, wanted⟩ := Definition.start_of_mem_react decided
    simp only [ShowsBackfill, basis, wanted]
    constructor
    · intro shown
      exact ⟨event, found, rfl, shown⟩
    · rintro ⟨event', found', same, shown⟩
      obtain ⟨rfl, rfl⟩ := Prod.mk.inj (Option.some.inj same)
      exact shown
  | jobs =>
    obtain ⟨event, n, owner, basis, decided⟩ := sound.jobDecided (mem_commands current)
    obtain ⟨-, -, wanted⟩ := Job.start_of_mem_react decided
    simp only [ShowsBackfill, basis, wanted]
    constructor
    · intro shown
      exact ⟨event, n, rfl, shown⟩
    · rintro ⟨event', n', same, shown⟩
      obtain ⟨rfl, rfl⟩ := Prod.mk.inj (Option.some.inj same)
      exact shown

/-- A start that is no backfill was decided on an event that overlooks the request. -/
theorem Sound.overlooks_of_start {d : Definition} {rest : List Command} (sound : w.Sound)
    (current : w.commands actor = .startJob d false :: rest) : w.OverlooksReload actor := by
  cases actor with
  | streams =>
    obtain ⟨⟨type, r⟩, found, basis, decided⟩ := sound.streamDecided (mem_commands current)
    obtain ⟨none, -, wanted⟩ := Definition.start_of_mem_react decided
    obtain ⟨listed, requested⟩ := not_or.1 (mt wanted.2 nofun)
    cases type with
    | added => exact absurd rfl listed
    | modified =>
      obtain rfl := Option.map_eq_none_iff.1 none
      exact ⟨r, basis, Bool.eq_false_iff.2 requested⟩
    | deleted => cases decided
  | jobs =>
    obtain ⟨⟨type, job⟩, n, owner, basis, decided⟩ := sound.jobDecided (mem_commands current)
    obtain ⟨gone, -, wanted⟩ := Job.start_of_mem_react decided
    obtain rfl : type = .deleted := gone
    obtain ⟨unmarked, same⟩ := not_or.1 (mt wanted.2 nofun)
    exact ⟨job, n, basis, Bool.eq_false_iff.2 unmarked, Bool.eq_false_iff.2 same⟩

/-- What overlooks the request does not show it. -/
theorem OverlooksReload.not_shows (overlooks : w.OverlooksReload actor) : ¬w.ShowsBackfill actor := by
  cases actor with
  | streams =>
    obtain ⟨r, basis, unrequested⟩ := overlooks
    rintro ⟨event, found, same, shown⟩
    obtain ⟨rfl, -⟩ := Prod.mk.inj (Option.some.inj (basis.symm.trans same))
    exact shown.elim nofun fun requested => by cases unrequested.symm.trans requested
  | jobs =>
    obtain ⟨job, n, basis, unmarked, alike⟩ := overlooks
    rintro ⟨event, n', same, shown⟩
    obtain ⟨rfl, -⟩ := Prod.mk.inj (Option.some.inj (basis.symm.trans same))
    rcases shown with marked | mismatch
    · cases unmarked.symm.trans marked
    · cases alike.symm.trans mismatch

/-- While a reload is pending, the next job of the stream is a backfill exactly when that shows in what
its start was decided on, and no backfill exactly when the start was decided on a definition that was
modified, is without the request and had no job, or on the end of a job that was not marked. -/
theorem next_job_backfills_iff {next : Job} (pending : u.ReloadPending d)
    (moved : u.step (.work actor setting) = some v)
    (before : Table.get? d.jobKey u.cluster.jobs = none)
    (after : Table.get? d.jobKey v.cluster.jobs = some next) :
    (next.isBackfilling = true ↔ u.ShowsBackfill actor) ∧
      (next.isBackfilling = false ↔ u.OverlooksReload actor) := by
  obtain ⟨start, w, job, first, second, initial, ran, -, ran', -⟩ := pending
  have sound : u.Sound := (initial.sound.run ran).run ran'
  rcases work_jobEffect moved with same | ⟨command, rest, current, effect⟩
  · rw [same, before] at after
    cases after
  · obtain ⟨d', rfl, -⟩ := effect.of_created before after
    have shows := sound.backfilling_of_start current
    refine ⟨shows, fun plain => ?_, fun overlooks => ?_⟩
    · rw [plain] at current
      exact sound.overlooks_of_start current
    · exact Bool.eq_false_iff.2 (mt shows.1 overlooks.not_shows)

/-! ## A reload of the stream in `Orders` -/

section Orders

/-- The definition with the request. -/
def requestedOrders : Definition := Orders.definition "3" (some .reloadRequested)

/-- The owner requests a reload, and the stream reconciler decides on it. -/
def requestMoves : List Move :=
  [.others (Orders.cluster requestedOrders [Orders.job "2" none []]) "", .take .streams,
    Orders.work .streams]

/-- The stream reconciler does what it decided on; the job reconciler stops the marked job. -/
def stopMoves : List Move :=
  [Orders.work .streams, Orders.work .streams, Orders.work .streams,
    .take .jobs, Orders.work .jobs, .work .jobs (Orders.setting "20")]

theorem pending_of_requestMoves {moves : List Move} (ran : Orders.atRest.run requestMoves = some w)
    (ran' : w.run (stopMoves ++ moves) = some u) (count : u.created Orders.key = 1) :
    u.ReloadPending requestedOrders := by
  have decided : (Orders.atRest.run requestMoves).map (fun w => (w.streamBasis, w.commands .streams))
      = some (some (⟨.modified, requestedOrders.resource⟩, some ⟨Orders.job "2" none [], 1⟩),
        [.dropReloadRequest requestedOrders, .requestReload (Orders.job "2" none [])]) := by
    decide +kernel
  have counted : (Orders.atRest.run requestMoves).map (fun w => w.created Orders.key) = some 1 := by
    decide +kernel
  simp only [ran, Option.map_some, Option.some.injEq, Prod.mk.injEq] at decided counted
  exact ⟨Orders.atRest, w, Orders.job "2" none [], requestMoves, stopMoves ++ moves,
    Orders.atRest_initial, ran, ⟨by decide, ⟨1, decided.1⟩, decided.2⟩, ran',
    count.trans counted.symm⟩

/-- When the job reconciler hears first that the marked job is gone, the next job is a backfill. -/
theorem next_job_backfills_after_deletion : ∃ (u v : World) (next : Job),
    u.ReloadPending requestedOrders ∧ u.step (Orders.work .jobs) = some v ∧
      Table.get? requestedOrders.jobKey u.cluster.jobs = none ∧
      Table.get? requestedOrders.jobKey v.cluster.jobs = some next ∧ next.isBackfilling = true := by
  have evaluated : ((Orders.atRest.run requestMoves).bind fun w =>
      (w.run (stopMoves ++ [Orders.work .jobs, .take .jobs, Orders.work .jobs])).bind fun u =>
        (u.step (Orders.work .jobs)).map fun v =>
          (u.created Orders.key, Table.get? requestedOrders.jobKey u.cluster.jobs,
            Table.contains requestedOrders.jobKey v.cluster.jobs,
            u.jobBasis.map fun basis => basis.1.resource.isReloadRequested))
      = some (1, none, true, some true) := by
    decide +kernel
  obtain ⟨w, ran, rest⟩ := Option.bind_eq_some_iff.1 evaluated
  obtain ⟨u, ran', rest⟩ := Option.bind_eq_some_iff.1 rest
  obtain ⟨v, moved, facts⟩ := Option.map_eq_some_iff.1 rest
  simp only [Prod.mk.injEq] at facts
  obtain ⟨count, free, present, marked⟩ := facts
  obtain ⟨next, created⟩ := Option.isSome_iff_exists.1 present
  obtain ⟨⟨event, n⟩, basis, requested⟩ := Option.map_eq_some_iff.1 marked
  have pending : u.ReloadPending requestedOrders := pending_of_requestMoves ran ran' count
  exact ⟨u, v, next, pending, moved, free, created,
    (next_job_backfills_iff pending moved free created).1.2 ⟨event, n, basis, .inl requested⟩⟩

/-- The stream reconciler hears that the annotation was taken away when the marked job is gone already,
and starts a job that is no backfill, though the stream is neither suspended nor in a crash loop. -/
theorem requested_reload_is_lost : ∃ (u v : World) (d : Definition) (next : Job),
    u.ReloadPending requestedOrders ∧ u.step (Orders.work .streams) = some v ∧
      Table.get? Orders.definitionKey u.cluster.resources = some d.resource ∧
      d.isSuspended = false ∧ d.isCrashLoop = false ∧
      Table.get? requestedOrders.jobKey u.cluster.jobs = none ∧
      Table.get? requestedOrders.jobKey v.cluster.jobs = some next ∧ next.isBackfilling = false := by
  have evaluated : ((Orders.atRest.run requestMoves).bind fun w =>
      (w.run (stopMoves ++ [.take .streams, Orders.work .streams])).bind fun u =>
        (u.step (Orders.work .streams)).map fun v =>
          (u.created Orders.key, Table.get? requestedOrders.jobKey u.cluster.jobs,
            (Table.get? requestedOrders.jobKey v.cluster.jobs).map Job.isBackfilling,
            (Table.get? Orders.definitionKey u.cluster.resources).map fun r =>
              ((Definition.mk r Orders.kind).isSuspended, (Definition.mk r Orders.kind).isCrashLoop)))
      = some (1, none, some false, some (false, false)) := by
    decide +kernel
  obtain ⟨w, ran, rest⟩ := Option.bind_eq_some_iff.1 evaluated
  obtain ⟨u, ran', rest⟩ := Option.bind_eq_some_iff.1 rest
  obtain ⟨v, moved, facts⟩ := Option.map_eq_some_iff.1 rest
  simp only [Prod.mk.injEq] at facts
  obtain ⟨count, free, label, state⟩ := facts
  obtain ⟨next, created, plain⟩ := Option.map_eq_some_iff.1 label
  obtain ⟨r, stored, active⟩ := Option.map_eq_some_iff.1 state
  obtain ⟨suspended, crashed⟩ := Prod.mk.inj active
  exact ⟨u, v, ⟨r, Orders.kind⟩, next, pending_of_requestMoves ran ran' count, moved, stored,
    suspended, crashed, free, created, plain⟩

end Orders

end StreamOperator.World
