import StreamOperator.Proofs.Supervisor.Calls
import StreamOperator.Proofs.Supervisor.Session

/-!
# Every pipeline has its handle

The invariant of a session is `Session.Sound`: a pipeline that has not ended either has its handle, or
the call under way has taken the handle, has told the pipeline to stop and waits for its end. While the
call holds an id that way nobody else puts a handle there, since a restart needs the handle of the
pipeline that asks for it. The invariant is kept by each step (`Sound.step`) and so holds in every
session that can be reached (`Reachable.sound`).
-/

set_option autoImplicit false

namespace StreamOperator

namespace Call

/-- The call waits for the pipeline with a number to end, or has put it on its list to wait for. -/
def Awaits : Call → Nat → Prop
  | attach _ (.awaiting seq), n => seq = n
  | detach _ (.awaiting handle), n => handle.seq = n
  | stop (.awaiting handles), n => ∃ handle ∈ handles, handle.seq = n
  | stop (.releasing _ rest), n | stop (.reporting _ rest _), n => ∃ handle ∈ rest, handle.seq = n
  | _, _ => False

/-- The call has seen to it that no handle stands under an id. -/
def Claims : Call → String → Prop
  | attach c (.awaiting _), id | attach c .registering, id | attach c .spawning, id => c.id = id
  | detach c (.awaiting _), id | detach c (.releasing _), id | detach c .done, id => c.id = id
  | stop (.awaiting _), _ | stop (.releasing _ _), _ | stop (.reporting _ _ _), _ | stop .done, _ => True
  | _, _ => False

/-- The call has told all pipelines to stop. -/
def Stops : Call → Prop
  | stop .cancelling => False
  | stop _ => True
  | _ => False

end Call

/-- A pipeline of the class id has not ended. -/
def Supervisor.Runs (s : Supervisor) (id : String) : Prop :=
  ∃ n p, s.pipeline? n = some p ∧ p.streamClass.id = id

namespace Session

/-- Every pipeline has its handle, or it was told to stop and the call waits for it. -/
structure Sound (w : Session) : Prop where
  tidy : w.supervisor.Tidy
  handled : ∀ {n p}, w.supervisor.pipeline? n = some p →
    (∃ handle, Table.get? p.streamClass.id w.supervisor.handles = some handle ∧ handle.seq = n) ∨
      w.supervisor.isCancelled p = true ∧ ∃ call, w.call = some call ∧ call.Awaits n
  claimed : ∀ {call id}, w.call = some call → call.Claims id →
    Table.get? id w.supervisor.handles = none
  stopping : ∀ {call}, w.call = some call → call.Stops → w.supervisor.stopped = true

variable {s t : Supervisor} {call next : Call} {k k' : Cluster} {w v : Session}

theorem Initial.sound (h : w.Initial) : w.Sound := by
  obtain ⟨uncalled, classes, dedup, delay, buffer, new⟩ := h
  have none_yet : ∀ n, w.supervisor.pipeline? n = none := by
    intro n
    rw [new]
    rfl
  have tidy : w.supervisor.Tidy := by
    constructor <;> intro n p found <;> simp [none_yet] at found
  refine ⟨tidy, ?_, ?_, ?_⟩
  · intro n p found
    simp [none_yet] at found
  · intro call id current
    simp [uncalled] at current
  · intro call current
    simp [uncalled] at current

/-! ## Calls begin and end -/

/-- A fresh call waits for nothing, holds nothing and stops nothing. -/
theorem of_isFresh (fresh : call.IsFresh) :
    (∀ n, ¬ call.Awaits n) ∧ (∀ id, ¬ call.Claims id) ∧ ¬ call.Stops := by
  unfold Call.IsFresh at fresh
  split at fresh <;> simp_all [Call.Awaits, Call.Claims, Call.Stops]

/-- A call that is over waits for nothing. -/
theorem not_awaits_of_result (finished : call.result?.isSome = true) (n : Nat) : ¬ call.Awaits n := by
  unfold Call.result? at finished
  split at finished <;> simp_all [Call.Awaits]

theorem Sound.begin (sound : w.Sound) (idle : w.IsIdle) (fresh : call.IsFresh) :
    Sound { w with call := some call } := by
  obtain ⟨awaits, claims, stops⟩ := of_isFresh fresh
  refine ⟨sound.tidy, ?_, ?_, ?_⟩
  · intro n p found
    rcases sound.handled found with handle | ⟨-, last, current, h⟩
    · exact .inl handle
    · exact absurd h (not_awaits_of_result (idle last current) n)
  · intro _ id current h
    cases current
    exact absurd h (claims id)
  · intro _ current h
    cases current
    exact absurd h stops

theorem Sound.cancelAll (sound : w.Sound) :
    Sound { w with supervisor := w.supervisor.cancelAll } := by
  have tidy := sound.tidy
  refine ⟨⟨tidy.seq_eq, tidy.unfinished, tidy.seq_lt⟩, ?_, sound.claimed, fun _ _ => rfl⟩
  intro n p found
  rcases sound.handled found with handle | ⟨-, awaited⟩
  · exact .inl handle
  · exact .inr ⟨rfl, awaited⟩

/-! ## Steps of pipelines -/

theorem Sound.stepPipeline {now : String} {clock m : Nat} (sound : w.Sound)
    (taken : w.supervisor.stepPipeline now clock m w.cluster = some (t, k)) :
    Sound { w with supervisor := t, cluster := k } := by
  rcases Supervisor.stepPipeline_cases sound.tidy taken with
    ⟨tidy, handles, stopped, origin⟩ | ⟨c, handle, tidy, running, running', own, handles, origin⟩
  · refine ⟨tidy, ?_, ?_, ?_⟩
    · intro n q found
      obtain ⟨p, hp, sameClass, sameToken⟩ := origin found
      simpa [sameClass, handles, Supervisor.isCancelled, sameToken, stopped] using sound.handled hp
    · intro call id current h
      simpa [handles] using sound.claimed current h
    · intro call current h
      simpa [stopped] using sound.stopping current h
  · -- The call cannot hold the id of the restarted pipeline, whose handle still stood.
    have unclaimed : ∀ {call id}, w.call = some call → call.Claims id → id ≠ c.id := by
      rintro call id current h rfl
      have taken := sound.claimed current h
      rw [own] at taken
      cases taken
    refine ⟨tidy, ?_, ?_, ?_⟩
    · intro n q found
      obtain ⟨other, ⟨rfl, rfl⟩ | hq⟩ := origin found
      · exact .inl ⟨_, (handles _).trans (if_pos rfl), rfl⟩
      · rcases sound.handled hq with ⟨standing, found', seq⟩ | ⟨told, awaited⟩
        · by_cases same : q.streamClass.id = c.id
          · rw [same, own] at found'
            cases found'
            exact absurd seq.symm other
          · exact .inl ⟨standing, by simpa [handles, same] using found', seq⟩
        · refine .inr ⟨?_, awaited⟩
          simpa [Supervisor.isCancelled, running, running'] using told
    · intro call id current h
      simpa [handles, unclaimed current h] using sound.claimed current h
    · intro call current h
      have stopped := sound.stopping current h
      rw [running] at stopped
      cases stopped

/-! ## Steps of calls -/

/-- A step of a call that touches neither the pipelines nor the handles. -/
theorem Sound.advance (sound : Sound ⟨s, some call, k⟩) (pipelines : t.pipelines = s.pipelines)
    (nextSeq : t.nextSeq = s.nextSeq) (handles : t.handles = s.handles)
    (stopped : t.stopped = s.stopped)
    (awaits : ∀ n, (s.pipeline? n).isSome = true → call.Awaits n → next.Awaits n)
    (claims : ∀ id, next.Claims id → Table.get? id s.handles = none)
    (stops : next.Stops → s.stopped = true) : Sound ⟨t, some next, k'⟩ := by
  have same : ∀ n, t.pipeline? n = s.pipeline? n := by
    intro n
    rw [Supervisor.pipeline?, pipelines]
    rfl
  refine ⟨⟨?_, ?_, ?_⟩, ?_, ?_, ?_⟩
  · intro n p found
    exact sound.tidy.seq_eq ((same n).symm.trans found)
  · intro n p found
    exact sound.tidy.unfinished ((same n).symm.trans found)
  · intro n p found
    rw [nextSeq]
    exact sound.tidy.seq_lt ((same n).symm.trans found)
  · intro n p found
    have found := (same n).symm.trans found
    rcases sound.handled found with handle | ⟨told, _, current, awaited⟩
    · rw [handles]
      exact .inl handle
    · cases current
      refine .inr ⟨?_, next, rfl, awaits n (Option.isSome_of_eq_some found) awaited⟩
      simpa [Supervisor.isCancelled, stopped] using told
  · intro _ id current h
    cases current
    rw [handles]
    exact claims id h
  · intro _ current h
    cases current
    rw [stopped]
    exact stops h

/-- A call takes a handle, tells its pipeline to stop and waits for it. -/
theorem Sound.revoke {id : String} {handle : Handle} (sound : Sound ⟨s, some call, k⟩)
    (found : Table.get? id s.handles = some handle) (before : ∀ n, ¬ call.Awaits n)
    (awaits : ∀ n, next.Awaits n ↔ handle.seq = n) (claims : ∀ id', next.Claims id' → id = id')
    (stops : ¬ next.Stops) :
    Sound ⟨s.revoke id handle, some next, k'⟩ := by
  have tidy := sound.tidy.withHandles (Table.erase id s.handles)
  refine ⟨tidy.cancel, ?_, ?_, ?_⟩
  · intro n p hp
    -- The pipeline as it was before it may have been told to stop.
    obtain ⟨q, hq, sameClass, told⟩ : ∃ q, s.pipeline? n = some q ∧ p.streamClass = q.streamClass ∧
        (n = handle.seq → p.cancelled = true) := by
      rw [Supervisor.revoke, Supervisor.pipeline?_cancel tidy] at hp
      split at hp
      · rename_i same
        subst same
        obtain ⟨q, hq, rfl⟩ := Option.map_eq_some_iff.1 hp
        exact ⟨q, hq, rfl, fun _ => rfl⟩
      · rename_i other
        exact ⟨p, hp, rfl, fun same => absurd same other⟩
    rcases sound.handled hq with ⟨standing, own, seq⟩ | ⟨-, _, current, awaited⟩
    · by_cases same : q.streamClass.id = id
      · rw [same] at own
        obtain rfl := Option.some.inj (found.symm.trans own)
        refine .inr ⟨?_, next, rfl, (awaits n).2 seq⟩
        simp [Supervisor.isCancelled, told seq.symm]
      · refine .inl ⟨standing, ?_, seq⟩
        simp only [Supervisor.handles_revoke, sameClass]
        rw [Table.get?_erase_of_ne same]
        exact own
    · cases current
      exact absurd awaited (before n)
  · intro _ id' current h
    cases current
    obtain rfl := claims id' h
    simp
  · intro _ current h
    cases current
    exact absurd h stops

/-- While a call holds an id and waits for nothing, no pipeline of the id runs. -/
theorem Sound.not_runs {id : String} (sound : w.Sound) (current : w.call = some call)
    (claims : call.Claims id) (awaits : ∀ n, ¬ call.Awaits n) : ¬ w.supervisor.Runs id := by
  rintro ⟨n, p, found, rfl⟩
  rcases sound.handled found with ⟨handle, own, -⟩ | ⟨-, other, current', awaited⟩
  · rw [sound.claimed current claims] at own
    cases own
  · rw [current] at current'
    cases current'
    exact awaits n awaited

theorem Sound.install {c : StreamClass} {status : StatusWrite}
    (sound : Sound ⟨s, some (.attach c .spawning), k⟩) :
    Sound ⟨s.install c, some (.attach c (.announcing status)), k'⟩ := by
  have unhandled : Table.get? c.id s.handles = none := sound.claimed rfl rfl
  have alone : ¬ s.Runs c.id := sound.not_runs rfl rfl fun _ h => h
  have spawned : s.install c = s.spawn c false := by simp [Supervisor.install, unhandled]
  rw [spawned]
  refine ⟨sound.tidy.spawn false, ?_, ?_, ?_⟩
  · intro n p hp
    simp only [Supervisor.pipeline?_spawn] at hp
    split at hp
    · rename_i new
      obtain rfl := Option.some.inj hp
      exact .inl ⟨_, (Supervisor.handle?_spawn _ _).trans (if_pos rfl), new.symm⟩
    · have other : p.streamClass.id ≠ c.id := fun same => alone ⟨n, p, hp, same⟩
      rcases sound.handled hp with ⟨handle, own, seq⟩ | ⟨-, _, current, awaited⟩
      · exact .inl ⟨handle, by simpa [Supervisor.handle?_spawn, other] using own, seq⟩
      · cases current
        exact absurd awaited id
  · intro _ id' current h
    cases current
    exact absurd h id
  · intro _ current h
    cases current
    exact absurd h id

/-- The supervisor was told to stop: the pipelines that have not ended are on the list of the call. -/
theorem Sound.awaitFirst {handles : List Handle} (tidy : s.Tidy) (stopped : s.stopped = true)
    (unhandled : ∀ id, Table.get? id s.handles = none)
    (listed : ∀ {n p}, s.pipeline? n = some p → ∃ handle ∈ handles, handle.seq = n) :
    Sound ⟨(s.awaitFirst handles).2, some (.stop (s.awaitFirst handles).1), k⟩ := by
  cases handles with
  | nil =>
    refine ⟨tidy, ?_, fun _ _ => unhandled _, fun _ _ => stopped⟩
    intro n p found
    obtain ⟨_, member, -⟩ := listed found
    cases member
  | cons first rest =>
    refine ⟨tidy.cancel, ?_, ?_, ?_⟩
    · intro n p found
      refine .inr ⟨by simp [Supervisor.awaitFirst, Supervisor.isCancelled, stopped], _, rfl, ?_⟩
      simp only [Supervisor.awaitFirst, Supervisor.pipeline?_cancel tidy] at found
      split at found
      · rename_i same
        exact ⟨first, List.mem_cons_self, same.symm⟩
      · exact listed found
    · intro _ id _ _
      simpa [Supervisor.awaitFirst] using unhandled id
    · intro _ _ _
      simpa [Supervisor.awaitFirst] using stopped

/-- The call goes on without the pipelines: what it waits for and holds stays as it was. -/
theorem Sound.proceed (sound : Sound ⟨s, some call, k⟩) (registry : ClassRegistry)
    (awaits : ∀ n, (s.pipeline? n).isSome = true → call.Awaits n → next.Awaits n)
    (claims : ∀ id, next.Claims id → call.Claims id) (stops : next.Stops → call.Stops) :
    Sound ⟨{ s with registry := registry }, some next, k'⟩ :=
  sound.advance rfl rfl rfl rfl awaits (fun _ h => sound.claimed rfl (claims _ h))
    fun h => sound.stopping rfl (stops h)

theorem Sound.attachStep {now : String} {c : StreamClass} {stage stage' : AttachStage}
    (sound : Sound ⟨s, some (.attach c stage), k⟩) (moved : s.AttachStep now c k stage stage' t k') :
    Sound ⟨t, some (.attach c stage'), k'⟩ := by
  cases moved with
  | unhandled free =>
    apply sound.advance rfl rfl rfl rfl (fun _ _ h => absurd h id) ?_ (fun h => absurd h id)
    rintro _ rfl
    exact free
  | claimed found => exact sound.revoke found (fun _ h => h) (fun _ => Iff.rfl) (fun _ h => h) id
  | awaited ended =>
    refine sound.proceed _ ?_ (fun _ h => h) (fun h => h)
    intro n running awaited
    obtain rfl : _ = n := awaited
    simp [ended] at running
  | spawned => exact sound.install
  | refused | admitted | current | rejected =>
    exact sound.proceed _ (fun _ _ h => absurd h id) (fun _ h => absurd h id) (fun h => h)
  | registered | refusing | failed | announcing | succeeded =>
    exact sound.proceed _ (fun _ _ h => h) (fun _ h => h) (fun h => h)

theorem Sound.detachStep {c : StreamClass} {stage stage' : DetachStage}
    (sound : Sound ⟨s, some (.detach c stage), k⟩) (moved : s.DetachStep c k stage stage' t k') :
    Sound ⟨t, some (.detach c stage'), k'⟩ := by
  cases moved with
  | unhandled free =>
    apply sound.advance rfl rfl rfl rfl (fun _ _ h => absurd h id) ?_ (fun h => absurd h id)
    rintro _ rfl
    exact free
  | claimed found => exact sound.revoke found (fun _ h => h) (fun _ => Iff.rfl) (fun _ h => h) id
  | awaited ended =>
    refine sound.proceed _ ?_ (fun _ h => h) (fun h => h)
    intro n running awaited
    obtain rfl : _ = n := awaited
    simp [ended] at running
  | released => exact sound.proceed _ (fun _ _ h => h) (fun _ h => h) (fun h => h)

theorem Sound.stopStep {now : String} {stage stage' : StopStage}
    (sound : Sound ⟨s, some (.stop stage), k⟩) (moved : s.StopStep now k stage stage' t k') :
    Sound ⟨t, some (.stop stage'), k'⟩ := by
  cases moved with
  | cancelled =>
    exact sound.cancelAll.advance rfl rfl rfl rfl (fun _ _ h => absurd h id) (fun _ h => absurd h id)
      fun _ => rfl
  | drained =>
    refine Sound.awaitFirst (sound.tidy.withHandles []) (sound.stopping rfl trivial)
      (fun _ => rfl) ?_
    intro n p found
    rcases sound.handled found with ⟨handle, own, seq⟩ | ⟨-, _, current, awaited⟩
    · exact ⟨handle, List.mem_map.2 ⟨_, Table.mem_of_get? own, rfl⟩, seq⟩
    · cases current
      exact absurd awaited id
  | exhausted =>
    refine sound.proceed _ ?_ (fun _ h => h) (fun h => h)
    intro n _ awaited
    obtain ⟨_, member, -⟩ := awaited
    cases member
  | awaited ended =>
    refine sound.proceed _ ?_ (fun _ h => h) (fun h => h)
    intro n running awaited
    obtain ⟨handle, member, rfl⟩ := awaited
    rcases List.mem_cons.1 member with rfl | member
    · simp [ended] at running
    · exact ⟨handle, member, rfl⟩
  | released | reporting => exact sound.proceed _ (fun _ _ h => h) (fun _ h => h) (fun h => h)
  | reported =>
    have unhandled : ∀ id, Table.get? id s.handles = none := fun _ => sound.claimed rfl trivial
    refine Sound.awaitFirst sound.tidy (sound.stopping rfl trivial) unhandled ?_
    intro n p found
    rcases sound.handled found with ⟨_, own, -⟩ | ⟨-, _, current, awaited⟩
    · rw [unhandled] at own
      cases own
    · cases current
      exact awaited

/-! ## Runs -/

theorem Sound.callStep {now : String} (sound : Sound ⟨s, some call, k⟩)
    (moved : s.CallStep now k call next t k') : Sound ⟨t, some next, k'⟩ := by
  cases moved with
  | attach moved => exact sound.attachStep moved
  | detach moved => exact sound.detachStep moved
  | stop moved => exact sound.stopStep moved

theorem Sound.step (sound : w.Sound) (step : Step w v) : v.Sound := by
  cases step with
  | pipeline taken => exact sound.stepPipeline taken
  | call current taken =>
    obtain ⟨supervisor, _, cluster⟩ := w
    obtain rfl : _ = some _ := current
    exact sound.callStep (Supervisor.callStep_of_stepCall taken)
  | begin idle fresh => exact sound.begin idle fresh
  | cancel => exact sound.cancelAll
  | elsewhere => exact ⟨sound.tidy, sound.handled, sound.claimed, sound.stopping⟩

theorem Sound.reaches (sound : w.Sound) (run : Reaches w v) : v.Sound := by
  induction run with
  | refl => exact sound
  | tail _ last ih => exact ih.step last

theorem Reachable.sound (reachable : w.Reachable) : w.Sound := by
  obtain ⟨start, initial, run⟩ := reachable
  exact initial.sound.reaches run

end Session

end StreamOperator
