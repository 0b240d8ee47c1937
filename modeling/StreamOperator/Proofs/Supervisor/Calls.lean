import StreamOperator.Proofs.Supervisor.Pipelines

/-!
# The steps of calls

All that one step of a call can do: `AttachStep`, `DetachStep` and `StopStep` have one case for each
outcome, with what decides it and what becomes of the supervisor. Later proofs take the steps of calls
apart by `callStep_of_stepCall`.
-/

set_option autoImplicit false

namespace StreamOperator.Supervisor

variable {s t : Supervisor} {now : String} {c : StreamClass} {k k' : Cluster}

/-- A handle is taken away, and its pipeline is told to stop. -/
def revoke (s : Supervisor) (id : String) (handle : Handle) : Supervisor :=
  Supervisor.cancel { s with handles := Table.erase id s.handles } handle.seq

@[simp] theorem handles_revoke {id : String} {handle : Handle} :
    (s.revoke id handle).handles = Table.erase id s.handles := handles_cancel

/-! ## Attaching -/

inductive AttachStep (s : Supervisor) (now : String) (c : StreamClass) (k : Cluster) :
    AttachStage → AttachStage → Supervisor → Cluster → Prop where
  | refused (stopped : s.stopped = true) :
      AttachStep s now c k .checking (.done (.error stoppedFailure)) s k
  | admitted (running : s.stopped = false) : AttachStep s now c k .checking .claiming s k
  | unhandled (free : Table.get? c.id s.handles = none) :
      AttachStep s now c k .claiming .registering s k
  /-- The pipeline runs for the same generation already. -/
  | current {handle : Handle} (found : Table.get? c.id s.handles = some handle)
      (same : handle.generation = c.metadata.generation)
      (unfinished : s.hasFinished handle.seq = false) :
      AttachStep s now c k .claiming (.done (.ok ())) s k
  | claimed {handle : Handle} (found : Table.get? c.id s.handles = some handle)
      (outdated : ¬ (handle.generation = c.metadata.generation ∧ s.hasFinished handle.seq = false)) :
      AttachStep s now c k .claiming (.awaiting handle.seq) (s.revoke c.id handle) k
  | awaited {seq : Nat} (ended : s.pipeline? seq = none) :
      AttachStep s now c k (.awaiting seq) .registering s k
  | registered {registry : ClassRegistry} (inserted : s.registry.insert c = .ok registry) :
      AttachStep s now c k .registering .spawning { s with registry := registry } k
  | rejected {e : Failure} (full : s.registry.insert c = .error e) :
      AttachStep s now c k .registering (.refusing e .reading) s k
  | refusing {e : Failure} {write write' : StatusWrite} {k' : Cluster}
      (goes : write.step (s.handler now) c (.failed e) k = (some write', k')) :
      AttachStep s now c k (.refusing e write) (.refusing e write') s k'
  | failed {e : Failure} {write : StatusWrite} {k' : Cluster}
      (ends : write.step (s.handler now) c (.failed e) k = (none, k')) :
      AttachStep s now c k (.refusing e write) (.done (.error e)) s k'
  | spawned : AttachStep s now c k .spawning (.announcing .reading) (s.install c) k
  | announcing {write write' : StatusWrite} {k' : Cluster}
      (goes : write.step (s.handler now) c .attached k = (some write', k')) :
      AttachStep s now c k (.announcing write) (.announcing write') s k'
  | succeeded {write : StatusWrite} {k' : Cluster}
      (ends : write.step (s.handler now) c .attached k = (none, k')) :
      AttachStep s now c k (.announcing write) (.done (.ok ())) s k'

theorem attachStep_of_claim {stage : AttachStage} (taken : s.claim c = (stage, t)) :
    s.AttachStep now c k .claiming stage t k := by
  unfold claim at taken
  cases found : Table.get? c.id s.handles with
  | none =>
    rw [found] at taken
    cases taken
    exact .unhandled found
  | some handle =>
    rw [found] at taken
    by_cases current : handle.generation = c.metadata.generation ∧ s.hasFinished handle.seq = false
    · simp only [if_pos current] at taken
      cases taken
      exact .current found current.1 current.2
    · simp only [if_neg current] at taken
      cases taken
      exact .claimed found current

theorem attachStep_of_stepAttach {stage next : AttachStage}
    (taken : s.stepAttach now c k stage = some (next, t, k')) :
    s.AttachStep now c k stage next t k' := by
  cases stage with
  | checking =>
    cases stopped : s.stopped with
    | true =>
      simp only [stepAttach, stopped] at taken
      cases taken
      exact .refused stopped
    | false =>
      simp only [stepAttach, stopped] at taken
      cases taken
      exact .admitted stopped
  | claiming =>
    cases taken
    exact attachStep_of_claim rfl
  | awaiting seq =>
    simp only [stepAttach] at taken
    split at taken
    · rename_i ended
      cases taken
      exact .awaited (hasFinished_iff.1 ended)
    · cases taken
  | registering =>
    simp only [stepAttach] at taken
    split at taken
    · rename_i inserted
      cases taken
      exact .registered inserted
    · rename_i full
      cases taken
      exact .rejected full
  | refusing e write =>
    simp only [stepAttach] at taken
    split at taken
    · rename_i goes
      cases taken
      exact .refusing goes
    · rename_i ends
      cases taken
      exact .failed ends
  | spawning =>
    cases taken
    exact .spawned
  | announcing write =>
    simp only [stepAttach] at taken
    split at taken
    · rename_i goes
      cases taken
      exact .announcing goes
    · rename_i ends
      cases taken
      exact .succeeded ends
  | done result => cases taken

/-! ## Detaching -/

inductive DetachStep (s : Supervisor) (c : StreamClass) (k : Cluster) :
    DetachStage → DetachStage → Supervisor → Cluster → Prop where
  | unhandled (free : Table.get? c.id s.handles = none) : DetachStep s c k .claiming .done s k
  | claimed {handle : Handle} (found : Table.get? c.id s.handles = some handle) :
      DetachStep s c k .claiming (.awaiting handle) (s.revoke c.id handle) k
  | awaited {handle : Handle} (ended : s.pipeline? handle.seq = none) :
      DetachStep s c k (.awaiting handle) (.releasing handle) s k
  | released {handle : Handle} : DetachStep s c k (.releasing handle) .done
      { s with registry := s.registry.remove handle.streamClass } k

theorem detachStep_of_stepDetach {stage next : DetachStage}
    (taken : s.stepDetach c k stage = some (next, t, k')) : s.DetachStep c k stage next t k' := by
  cases stage with
  | claiming =>
    cases found : Table.get? c.id s.handles with
    | none =>
      simp only [stepDetach, release, found] at taken
      cases taken
      exact .unhandled found
    | some handle =>
      simp only [stepDetach, release, found] at taken
      cases taken
      exact .claimed found
  | awaiting handle =>
    simp only [stepDetach] at taken
    split at taken
    · rename_i ended
      cases taken
      exact .awaited (hasFinished_iff.1 ended)
    · cases taken
  | releasing handle =>
    cases taken
    exact .released
  | done => cases taken

/-! ## Stopping -/

inductive StopStep (s : Supervisor) (now : String) (k : Cluster) :
    StopStage → StopStage → Supervisor → Cluster → Prop where
  | cancelled : StopStep s now k .cancelling .draining s.cancelAll k
  | drained : StopStep s now k .draining
      (awaitFirst { s with handles := [] } (s.handles.map Prod.snd)).1
      (awaitFirst { s with handles := [] } (s.handles.map Prod.snd)).2 k
  | exhausted : StopStep s now k (.awaiting []) .done s k
  | awaited {first : Handle} {rest : List Handle} (ended : s.pipeline? first.seq = none) :
      StopStep s now k (.awaiting (first :: rest)) (.releasing first rest) s k
  | released {first : Handle} {rest : List Handle} :
      StopStep s now k (.releasing first rest) (.reporting first rest .reading)
        { s with registry := s.registry.remove first.streamClass } k
  | reporting {first : Handle} {rest : List Handle} {write write' : StatusWrite} {k' : Cluster}
      (goes : write.step (s.handler now) first.streamClass .stopped k = (some write', k')) :
      StopStep s now k (.reporting first rest write) (.reporting first rest write') s k'
  | reported {first : Handle} {rest : List Handle} {write : StatusWrite} {k' : Cluster}
      (ends : write.step (s.handler now) first.streamClass .stopped k = (none, k')) :
      StopStep s now k (.reporting first rest write) (s.awaitFirst rest).1 (s.awaitFirst rest).2 k'

theorem stopStep_of_stepStop {stage next : StopStage}
    (taken : s.stepStop now k stage = some (next, t, k')) : s.StopStep now k stage next t k' := by
  cases stage with
  | cancelling =>
    cases taken
    exact .cancelled
  | draining =>
    cases taken
    exact .drained
  | awaiting handles =>
    cases handles with
    | nil =>
      cases taken
      exact .exhausted
    | cons first rest =>
      simp only [stepStop] at taken
      split at taken
      · rename_i ended
        cases taken
        exact .awaited (hasFinished_iff.1 ended)
      · cases taken
  | releasing first rest =>
    cases taken
    exact .released
  | reporting first rest write =>
    simp only [stepStop] at taken
    split at taken
    · rename_i goes
      cases taken
      exact .reporting goes
    · rename_i ends
      cases taken
      exact .reported ends
  | done => cases taken

/-! ## Calls -/

/-- A step of a call is one of its own kind. -/
inductive CallStep (s : Supervisor) (now : String) (k : Cluster) :
    Call → Call → Supervisor → Cluster → Prop where
  | attach {c : StreamClass} {stage next : AttachStage} {t : Supervisor} {k' : Cluster}
      (moved : s.AttachStep now c k stage next t k') :
      CallStep s now k (.attach c stage) (.attach c next) t k'
  | detach {c : StreamClass} {stage next : DetachStage} {t : Supervisor} {k' : Cluster}
      (moved : s.DetachStep c k stage next t k') :
      CallStep s now k (.detach c stage) (.detach c next) t k'
  | stop {stage next : StopStage} {t : Supervisor} {k' : Cluster}
      (moved : s.StopStep now k stage next t k') : CallStep s now k (.stop stage) (.stop next) t k'

theorem callStep_of_stepCall {call next : Call}
    (taken : s.stepCall now call k = some (next, t, k')) : s.CallStep now k call next t k' := by
  cases call with
  | attach c stage =>
    obtain ⟨⟨stage', r⟩, moved, same⟩ := Option.map_eq_some_iff.1 taken
    cases same
    exact .attach (attachStep_of_stepAttach moved)
  | detach c stage =>
    obtain ⟨⟨stage', r⟩, moved, same⟩ := Option.map_eq_some_iff.1 taken
    cases same
    exact .detach (detachStep_of_stepDetach moved)
  | stop stage =>
    obtain ⟨⟨stage', r⟩, moved, same⟩ := Option.map_eq_some_iff.1 taken
    cases same
    exact .stop (stopStep_of_stepStop moved)

end StreamOperator.Supervisor
