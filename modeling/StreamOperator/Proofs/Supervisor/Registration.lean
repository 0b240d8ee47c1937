import StreamOperator.Proofs.Decision.StartStop
import StreamOperator.Proofs.StreamClass.Registry
import StreamOperator.Proofs.Supervisor.Handles
import StreamOperator.Proofs.Supervisor.SinglePipeline

/-!
# Running pipelines find their class

The registry of classes and the handles are kept apart: one goes by kinds as they are written, the other
by ids, in which letter case plays no part. The invariant `Session.Registered` ties them together. Each
class that anything relies on is held by the registry: the classes of the handles, of the handles that a
call has taken, of the pipelines that have not ended, and the class that is about to get its pipeline.
The main statement is `running_pipeline_finds_class`.
-/

set_option autoImplicit false

namespace StreamOperator

namespace Session

variable {w v : Session} {c d : StreamClass} {call : Call} {handle : Handle} {id : String}

/-- Something of the session is of a class. -/
inductive Relies (w : Session) (c : StreamClass) : Prop where
  | handle {handle : Handle} (hands : w.Hands handle) (same : handle.streamClass = c)
  | asked (asks : w.Asks c)

/-- Each class that anything relies on is registered, and there is room for all of them. -/
structure Registered (w : Session) : Prop where
  holds : ∀ {c}, w.Relies c → w.supervisor.registry.Holds c
  fits : w.supervisor.registry.Fits

theorem Initial.registered (h : w.Initial) : w.Registered := by
  have hands : ∀ handle, ¬ w.Hands handle := by
    obtain ⟨uncalled, classes, dedup, delay, buffer, new⟩ := h
    rintro handle (⟨id, member⟩ | ⟨call, current, -⟩)
    · rw [new] at member
      cases member
    · rw [uncalled] at current
      cases current
  refine ⟨?_, ?_⟩
  · rintro c (⟨held, -⟩ | current | ⟨n, p, found, -⟩)
    · exact absurd held (hands _)
    · rw [h.1] at current
      cases current
    · rw [h.pipeline?_eq_none] at found
      cases found
  · obtain ⟨-, classes, dedup, delay, buffer, new⟩ := h
    rw [new]
    exact ClassRegistry.fits_empty classes

/-! ## What relies on a class after a step -/

theorem asks_of_pipeline {n : Nat} {p : Pipeline} (found : w.supervisor.pipeline? n = some p) :
    w.Asks p.streamClass :=
  .inr ⟨n, p, found, rfl⟩

/-- A pipeline is of a class that was asked for before. -/
theorem Step.asks {n : Nat} {q : Pipeline} (sound : w.Sound) (step : Step w v)
    (found : v.supervisor.pipeline? n = some q) : w.Asks q.streamClass := by
  cases step with
  | pipeline taken =>
    obtain ⟨p, stage, s', stood, rfl, -, rfl, standing⟩ :=
      Supervisor.advance_of_stepPipeline sound.tidy taken
    rw [Supervisor.pipeline?_setPipeline] at found
    split at found
    · split at found
      · cases found
      · obtain rfl := Option.some.inj found
        exact .inr ⟨_, p, stood, rfl⟩
    · rcases standing with rfl | ⟨-, -, rfl, -⟩
      · exact asks_of_pipeline found
      · rw [Supervisor.pipeline?_spawn] at found
        split at found
        · obtain rfl := Option.some.inj found
          exact .inr ⟨_, p, stood, rfl⟩
        · exact asks_of_pipeline found
  | call current taken =>
    have moved := Supervisor.callStep_of_stepCall taken
    rcases moved.narrows_or sound.tidy with narrows | ⟨c, rfl, rfl, rfl⟩
    · obtain ⟨p, stood, same⟩ := narrows.pipelines found
      rw [same]
      exact asks_of_pipeline stood
    · rw [Supervisor.install_of_unhandled (sound.claimed current rfl)] at found
      rw [Supervisor.pipeline?_spawn] at found
      split at found
      · obtain rfl := Option.some.inj found
        exact .inl current
      · exact asks_of_pipeline found
  | begin | cancel | elsewhere => exact asks_of_pipeline found

/-- Nothing relies on a class for the first time, but an attaching that has registered it. -/
theorem Step.relies (sound : w.Sound) (matched : w.Matched) (step : Step w v) (relies : v.Relies c) :
    w.Relies c ∨ v.call = some (.attach c .spawning) := by
  rcases relies with ⟨⟨id, member⟩ | ⟨call, current, member⟩, rfl⟩ | current | ⟨n, q, found, rfl⟩
  · rcases (step.handling sound).origin matched.distinct member with before | ⟨c, same, -, -, asked⟩
    · exact .inl (.handle (.inl ⟨id, before⟩) rfl)
    · cases same
      exact .inl (.asked asked)
  · exact .inl (.handle (step.taken current member) rfl)
  · exact .inr current
  · exact .inl (.asked (step.asks sound found))

/-! ## Steps -/

/-- What a step does to the registry. -/
inductive Registering (w v : Session) : Prop where
  | kept (same : v.supervisor.registry = w.supervisor.registry)
      (spawning : ∀ {c}, v.call = some (.attach c .spawning) → w.call = v.call)
  | inserted {c : StreamClass} (called : v.call = some (.attach c .spawning))
      (taken : w.supervisor.registry.insert c = .ok v.supervisor.registry)
  | detached {c : StreamClass} {handle : Handle} (before : w.call = some (.detach c (.releasing handle)))
      (called : v.call = some (.detach c .done))
      (removed : v.supervisor.registry = w.supervisor.registry.remove handle.streamClass)
  | stopped {first : Handle} {rest : List Handle}
      (before : w.call = some (.stop (.releasing first rest)))
      (called : v.call = some (.stop (.reporting first rest .reading)))
      (removed : v.supervisor.registry = w.supervisor.registry.remove first.streamClass)

theorem Step.registering (sound : w.Sound) (step : Step w v) : Registering w v := by
  cases step with
  | pipeline taken => exact .kept (Supervisor.registry_of_stepPipeline sound.tidy taken) fun _ => rfl
  | call current taken =>
    cases Supervisor.callStep_of_stepCall taken with
    | @attach c _ _ _ _ moved =>
      cases moved with
      | registered inserted => exact .inserted rfl inserted
      | claimed => exact .kept Supervisor.registry_revoke fun spawning => by cases spawning
      | spawned =>
        rw [Supervisor.install_of_unhandled (sound.claimed current rfl)]
        exact .kept rfl fun spawning => by cases spawning
      | _ => exact .kept rfl fun spawning => by cases spawning
    | detach moved =>
      cases moved with
      | released => exact .detached current rfl rfl
      | claimed => exact .kept Supervisor.registry_revoke fun spawning => by cases spawning
      | _ => exact .kept rfl fun spawning => by cases spawning
    | stop moved =>
      cases moved with
      | released => exact .stopped current rfl rfl
      | drained | reported =>
        exact .kept (Supervisor.registry_awaitFirst _) fun spawning => by cases spawning
      | _ => exact .kept rfl fun spawning => by cases spawning
  | begin _ fresh =>
    refine .kept rfl ?_
    rintro c spawning
    cases spawning
    cases fresh
  | cancel | elsewhere => exact .kept rfl fun _ => rfl

/-- While a call holds an id and has no handle, nothing but the call relies on a class with the id. -/
theorem Sound.id_ne_of_relies (sound : w.Sound) (matched : w.Matched) (current : w.call = some call)
    (claims : call.Claims id) (awaits : ∀ n, ¬ call.Awaits n) (untaken : call.taken = [])
    (relies : w.Relies c) : c.id ≠ id ∨ call = .attach c .spawning := by
  rcases relies with ⟨⟨key, member⟩ | ⟨_, current', member⟩, rfl⟩ | current' | ⟨n, p, found, rfl⟩
  · left
    rintro rfl
    have standing := matched.get? member
    rw [← matched.named _ member, sound.claimed current claims] at standing
    cases standing
  · obtain rfl := Option.some.inj (current.symm.trans current')
    rw [untaken] at member
    cases member
  · exact .inr (Option.some.inj (current.symm.trans current'))
  · left
    rintro rfl
    exact sound.not_runs current claims awaits ⟨n, p, found, rfl⟩

/-- While the supervisor stops, all that relies on a class are the handles that are left. -/
theorem Sound.taken_of_relies {stage : StopStage} (sound : w.Sound) (matched : w.Matched)
    (current : w.call = some (.stop stage)) (claims : ∀ id, (Call.stop stage).Claims id)
    (awaits : ∀ n, (Call.stop stage).Awaits n → ∃ handle ∈ (Call.stop stage).taken, handle.seq = n)
    (relies : w.Relies c) : ∃ handle ∈ (Call.stop stage).taken, handle.streamClass = c := by
  rcases relies with ⟨⟨key, member⟩ | ⟨_, current', member⟩, rfl⟩ | current' | ⟨n, p, found, rfl⟩
  · have standing := matched.get? member
    rw [sound.claimed current (claims _)] at standing
    cases standing
  · obtain rfl := Option.some.inj (current.symm.trans current')
    exact ⟨_, member, rfl⟩
  · rw [current] at current'
    cases current'
  · rcases sound.handled found with ⟨handle, own, -⟩ | ⟨-, _, current', awaited⟩
    · rw [sound.claimed current (claims _)] at own
      cases own
    · obtain rfl := Option.some.inj (current.symm.trans current')
      obtain ⟨handle, member, rfl⟩ := awaits n awaited
      have backed := matched.backed (.inr ⟨_, current, member⟩)
      exact ⟨handle, member, (backed.served found).symm⟩

theorem Registered.step (registered : w.Registered) (sound : w.Sound) (matched : w.Matched)
    (sound' : v.Sound) (matched' : v.Matched) (step : Step w v) : v.Registered := by
  have before : ∀ {d}, v.Relies d →
      w.supervisor.registry.Holds d ∨ v.call = some (.attach d .spawning) :=
    fun relies => (step.relies sound matched relies).imp_left registered.holds
  cases step.registering sound with
  | kept same spawning =>
    refine ⟨fun relies => ?_, ?_⟩ <;> rw [same]
    · rcases before relies with held | called
      · exact held
      · exact registered.holds (.asked (.inl ((spawning called).trans called)))
    · exact registered.fits
  | @inserted c called taken =>
    refine ⟨fun {d} relies => ?_, registered.fits.insert taken⟩
    have own : d = c → v.supervisor.registry.Holds d := by
      rintro rfl
      exact ClassRegistry.holds_of_insert taken
    rcases sound'.id_ne_of_relies matched' called rfl (fun _ h => h) rfl relies with other | same
    · rcases before relies with held | called'
      · exact held.insert other taken
      · rw [called] at called'
        cases called'
        exact own rfl
    · cases same
      exact own rfl
  | @detached c handle current called removed =>
    refine ⟨fun {d} relies => ?_, ?_⟩ <;> rw [removed]
    · rcases sound'.id_ne_of_relies matched' called rfl (fun _ h => h) rfl relies with other | same
      · rcases before relies with held | called'
        · have own : handle.streamClass.id = c.id :=
            matched.detached current handle List.mem_cons_self
          exact held.remove (own ▸ other)
        · rw [called] at called'
          cases called'
      · cases same
    · exact registered.fits.remove
  | @stopped first rest current called removed =>
    refine ⟨fun {d} relies => ?_, ?_⟩ <;> rw [removed]
    · obtain ⟨handle, member, rfl⟩ := sound'.taken_of_relies matched' called (fun _ => trivial)
        (fun _ awaited => awaited) relies
      have apart := (List.nodup_cons.1 (matched.takenApart current)).1
      rcases before relies with held | called'
      · apply held.remove
        intro same
        exact apart (List.mem_map.2 ⟨handle, member, same⟩)
      · rw [called] at called'
        cases called'
    · exact registered.fits.remove

theorem Reachable.registered (reachable : w.Reachable) : w.Registered :=
  reachable.invariant Initial.registered fun before registered step =>
    have after := before.step step
    registered.step before.sound before.matched after.sound after.matched step

end Session

/-! ## What follows for the pipelines -/

namespace Handler

variable {h : Handler Cluster} {d : Definition} {c : StreamClass} {k : Cluster} {backfilling : Bool}

/-- The failure to start a job of a kind that no class serves. -/
def missingClass (kind : String) : Failure :=
  .missingReference ("No StreamClass configuration found for kind " ++ kind)

/-- A text that begins differently is no report of a missing class. -/
theorem ne_missingClass {reason kind : String} (differs : reason.toList.head? ≠ some 'N') :
    Failure.missingReference reason ≠ missingClass kind := by
  intro same
  apply differs
  rw [Failure.missingReference.inj same]
  simp

theorem findTemplate_fails (inMemory : h.api = Cluster.api) (ref : TemplateRef) (kind : String) :
    (h.findTemplate d ref).Fails fun e => e ≠ missingClass kind := by
  unfold findTemplate
  rw [inMemory]
  refine .bind (Cluster.getResource_fails fun _ => nofun) fun found => ?_
  cases found with
  | none => exact .throw (ne_missingClass (by simp))
  | some resource =>
    apply Act.Fails.ofExcept
    intro e failed
    unfold Resource.parse at failed
    split at failed
    · cases failed
    · obtain rfl := Except.error.inj failed
      nofun

/-- With a class for its kind a job is not refused for want of one. -/
theorem prepareJob_fails (inMemory : h.api = Cluster.api)
    (served : h.classes d.coordinates.kind = some c) :
    (h.prepareJob d backfilling).Fails fun e => e ≠ missingClass d.coordinates.kind := by
  unfold prepareJob
  rw [served]
  simp only
  split
  · exact .throw (ne_missingClass (by simp))
  · refine .bind (findTemplate_fails inMemory _ _) fun template => .ofExcept ?_
    intro e failed
    unfold Job.build at failed
    split at failed
    · obtain rfl := Except.error.inj failed
      nofun
    · cases failed

end Handler

namespace Session

variable {w : Session} {c : StreamClass} {handle : Handle} {id : String}

/-- The class of a handle that stands is registered, and its id is the handle's. -/
theorem Reachable.registry_get? (reachable : w.Reachable)
    (found : Table.get? id w.supervisor.handles = some handle) : handle.streamClass.id = id ∧
      w.supervisor.registry.get? handle.streamClass.spec.kindRef = some handle.streamClass :=
  ⟨reachable.matched.named _ (Table.mem_of_get? found),
    reachable.registered.holds (.handle (hands_of_get? found) rfl)⟩

/-- Handles with one kind are one handle. -/
theorem Reachable.id_eq_of_kindRef {other : Handle} {id' : String} (reachable : w.Reachable)
    (found : Table.get? id w.supervisor.handles = some handle)
    (found' : Table.get? id' w.supervisor.handles = some other)
    (same : handle.streamClass.spec.kindRef = other.streamClass.spec.kindRef) : id = id' := by
  obtain ⟨named, held⟩ := reachable.registry_get? found
  obtain ⟨named', held'⟩ := reachable.registry_get? found'
  rw [same, held'] at held
  rw [← named, ← named', Option.some.inj held]

theorem Reachable.attached_length_le (reachable : w.Reachable) :
    w.supervisor.attached.length ≤ w.supervisor.registry.capacity := by
  have distinct := reachable.matched.distinct
  have kinds : (w.supervisor.handles.map fun e => e.2.streamClass.spec.kindRef).Nodup := by
    apply List.Nodup.map_on ?_ distinct.of_map
    intro first member second member' same
    have found := Table.get?_of_mem distinct member
    have key := reachable.id_eq_of_kindRef found (Table.get?_of_mem distinct member') same
    have found' := Table.get?_of_mem distinct member'
    rw [← key, found] at found'
    exact Prod.ext key (Option.some.inj found')
  have served : ∀ kind ∈ w.supervisor.handles.map (fun e => e.2.streamClass.spec.kindRef),
      (w.supervisor.registry.get? kind).isSome = true := by
    intro kind member
    obtain ⟨entry, standing, rfl⟩ := List.mem_map.1 member
    have found := Table.get?_of_mem distinct standing
    exact Option.isSome_of_eq_some (reachable.registry_get? found).2
  have bound := ClassRegistry.length_le_size kinds served
  rw [List.length_map] at bound
  rw [Supervisor.attached, List.length_mergeSort, List.length_map]
  exact Nat.le_trans bound reachable.registered.fits

/-- The class of a pipeline that has not ended is registered. -/
theorem Reachable.registry_of_pipeline {n : Nat} {p : Pipeline} (reachable : w.Reachable)
    (found : w.supervisor.pipeline? n = some p) :
    w.supervisor.registry.get? p.streamClass.spec.kindRef = some p.streamClass :=
  reachable.registered.holds (.asked (asks_of_pipeline found))

/-- The jobs that a pipeline starts are of its class. -/
theorem Reachable.coordinates_of_start {n : Nat} {p : Pipeline} {run : Run Resource} {d : Definition}
    {backfilling : Bool} (reachable : w.Reachable) (found : w.supervisor.pipeline? n = some p)
    (running : p.stage = .running run) (left : Command.startJob d backfilling ∈ run.stage.commands) :
    d.coordinates = p.streamClass.target := by
  obtain ⟨event, job, member⟩ := ((reachable.orderly found).serves running).decided _ left
  obtain ⟨-, rfl, -⟩ := Definition.start_of_mem_react member
  rfl

/-- Every handle stands under the id of its class, and the registry maps the kind of the class to
exactly this class; so no two handles have one kind, and there are no more of them than the registry has
room for. The class of every pipeline that has not ended is registered, also while the pipeline is being
detached, and whenever such a pipeline starts a job the class is found. -/
theorem running_pipeline_finds_class (reachable : w.Reachable) :
    (∀ id handle, Table.get? id w.supervisor.handles = some handle →
      handle.streamClass.id = id ∧
      w.supervisor.registry.get? handle.streamClass.spec.kindRef = some handle.streamClass) ∧
    (∀ id id' handle other, Table.get? id w.supervisor.handles = some handle →
      Table.get? id' w.supervisor.handles = some other →
      handle.streamClass.spec.kindRef = other.streamClass.spec.kindRef → id = id') ∧
    w.supervisor.attached.length ≤ w.supervisor.registry.capacity ∧
    (∀ n p, w.supervisor.pipeline? n = some p →
      w.supervisor.registry.get? p.streamClass.spec.kindRef = some p.streamClass) ∧
    (∀ c handle, w.call = some (.detach c (.awaiting handle)) →
      w.supervisor.registry.get? handle.streamClass.spec.kindRef = some handle.streamClass) ∧
    (∀ n p run d backfilling now k, w.supervisor.pipeline? n = some p → p.stage = .running run →
      Command.startJob d backfilling ∈ run.stage.commands →
      (w.supervisor.handler now).classes d.coordinates.kind = some p.streamClass ∧
      ((w.supervisor.handler now).prepareJob d backfilling k).1 ≠
        .error (Handler.missingClass d.coordinates.kind)) := by
  refine ⟨fun _ _ => reachable.registry_get?, fun _ _ _ _ => reachable.id_eq_of_kindRef,
    reachable.attached_length_le, fun _ _ => reachable.registry_of_pipeline, ?_, ?_⟩
  · intro c handle current
    exact reachable.registered.holds (.handle (.inr ⟨_, current, List.mem_cons_self⟩) rfl)
  · intro n p run d backfilling now k found running left
    have served : (w.supervisor.handler now).classes d.coordinates.kind = some p.streamClass := by
      rw [reachable.coordinates_of_start found running left]
      exact reachable.registry_of_pipeline found
    refine ⟨served, fun failed => ?_⟩
    exact Handler.prepareJob_fails rfl served _ _ _ (Prod.ext failed rfl) rfl

/-- The class that was attached is found under its kind. -/
theorem attached_class_is_found :
    (attaching (informed.spawn sqlServer false) (.announcing .reading)).Reachable ∧
    (informed.spawn sqlServer false).attached = ["streaming-sqlserverstream"] ∧
    (informed.spawn sqlServer false).registry.get? "SqlServerStream" = some sqlServer := by
  have pipeline : (informed.spawn sqlServer false).pipeline? 0 =
      some ⟨sqlServer, 0, false, .starting false⟩ := rfl
  obtain ⟨-, -, -, found, -⟩ := running_pipeline_finds_class attaching_reachable
  exact ⟨attaching_reachable, by decide +kernel, found 0 _ pipeline⟩

end Session

end StreamOperator
