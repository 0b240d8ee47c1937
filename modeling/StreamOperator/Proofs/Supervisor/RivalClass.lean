import StreamOperator.Proofs.Supervisor.ClassEvents

/-!
# What the events of other classes do to an attached class

The supervisor tells classes apart by their ids. The id is made of the namespace and the kind in lower
case, so two resources can share one. The events of classes with another id leave an attached class
alone. Of those with the same id only an attaching for the same generation does; the deletion of such a
class, or its attaching for another generation, takes the handle away
(`attached_class_is_undisturbed_iff`).
-/

set_option autoImplicit false

namespace StreamOperator

/-- The call does not touch what stands under the id of a class. -/
def Call.Spares (stopped : Bool) (c : StreamClass) : Call → Prop
  | attach r .checking =>
    r.id ≠ c.id ∨ stopped = true ∨ r.metadata.generation = c.metadata.generation
  | attach r .claiming =>
    r.id ≠ c.id ∨ stopped = false ∧ r.metadata.generation = c.metadata.generation
  | attach _ (.done _) | detach _ .done | stop .done => True
  | attach r _ | detach r _ => r.id ≠ c.id
  | stop _ => False

/-- A call that is over touches nothing any more. -/
theorem Call.spares_of_result {call : Call} {stopped : Bool} {c : StreamClass}
    (finished : call.result?.isSome = true) : call.Spares stopped c := by
  unfold Call.result? at finished
  split at finished
  · trivial
  · trivial
  · trivial
  · cases finished

/-- What belongs to a class is as it was: the handle under its id, the pipeline of the handle and the
entry for its kind. -/
structure Supervisor.Keeps (s t : Supervisor) (c : StreamClass) : Prop where
  handle : Table.get? c.id t.handles = Table.get? c.id s.handles
  pipeline : ∀ handle, Table.get? c.id s.handles = some handle →
    t.pipeline? handle.seq = s.pipeline? handle.seq
  entry : t.registry.get? c.spec.kindRef = s.registry.get? c.spec.kindRef

theorem Supervisor.Keeps.refl (s : Supervisor) (c : StreamClass) : s.Keeps s c :=
  ⟨rfl, fun _ _ => rfl, rfl⟩

namespace Session

variable {w v u : Session} {c r : StreamClass} {events : List (Event StreamClass)} {handle : Handle}

/-! ## Steps of calls for other ids -/

theorem Matched.keeps_revoke (matched : w.Matched) (tidy : w.supervisor.Tidy) (other : r.id ≠ c.id)
    (found : Table.get? r.id w.supervisor.handles = some handle) :
    w.supervisor.Keeps (w.supervisor.revoke r.id handle) c := by
  refine ⟨?_, ?_, by rw [Supervisor.registry_revoke]⟩
  · rw [Supervisor.handles_revoke, Table.get?_erase_of_ne other.symm]
  · intro own standing
    have before : ∀ n, Supervisor.pipeline?
        { w.supervisor with handles := Table.erase r.id w.supervisor.handles } n =
        w.supervisor.pipeline? n := fun _ => rfl
    rw [Supervisor.revoke, Supervisor.pipeline?_cancel (tidy.withHandles _), before, before]
    split
    · rename_i same
      cases stood : w.supervisor.pipeline? handle.seq with
      | none => rw [same, stood, Option.map_none]
      | some p => exact absurd (matched.id_eq_of_seq found standing stood same.symm) other
    · rfl

theorem Matched.keeps_spawn (matched : w.Matched) (other : r.id ≠ c.id)
    (restarted : Bool) : w.supervisor.Keeps (w.supervisor.spawn r restarted) c := by
  refine ⟨?_, ?_, rfl⟩
  · rw [Supervisor.handle?_spawn, if_neg other.symm]
  · intro own standing
    have given := (matched.backed (hands_of_get? standing)).given
    rw [Supervisor.pipeline?_spawn, if_neg (Nat.ne_of_lt given)]

/-- A change of the registry that keeps what is held. -/
theorem Attached.keeps_registry (attached : w.Attached c) (reachable : w.Reachable)
    {registry : ClassRegistry} (held : w.supervisor.registry.Holds c → registry.Holds c) :
    w.supervisor.Keeps { w.supervisor with registry := registry } c := by
  obtain ⟨handle, found, rfl⟩ := Option.map_eq_some_iff.1 attached
  have before := (reachable.registry_get? found).2
  exact ⟨rfl, fun _ _ => rfl, (held before).trans before.symm⟩

theorem Attached.attachStep {now : String} {stage next : AttachStage} {t : Supervisor} {k : Cluster}
    (attached : w.Attached c) (reachable : w.Reachable)
    (current : w.call = some (.attach r stage))
    (spares : (Call.attach r stage).Spares w.supervisor.stopped c)
    (moved : w.supervisor.AttachStep now r w.cluster stage next t k) :
    w.supervisor.Keeps t c ∧ (Call.attach r next).Spares w.supervisor.stopped c := by
  have sound := reachable.sound
  have matched := reachable.matched
  cases moved with
  | refused | failed | current | succeeded => exact ⟨.refl _ _, trivial⟩
  | admitted running =>
    refine ⟨.refl _ _, ?_⟩
    rcases spares with other | stopped | same
    · exact .inl other
    · rw [running] at stopped
      cases stopped
    · exact .inr ⟨running, same⟩
  | unhandled free =>
    refine ⟨.refl _ _, fun own => ?_⟩
    obtain ⟨handle, found, -⟩ := Option.map_eq_some_iff.1 attached
    rw [own, found] at free
    cases free
  | claimed found outdated =>
    have other : r.id ≠ c.id := by
      intro own
      rcases spares with other | ⟨running, same⟩
      · exact other own
      · obtain ⟨handle, standing, -, generation, -, served⟩ := attached.inPlace reachable
        obtain ⟨p, stood, -⟩ := served running
        rw [own, standing] at found
        obtain rfl := Option.some.inj found
        exact outdated ⟨generation.trans same.symm, by simp [Supervisor.hasFinished, stood]⟩
    exact ⟨matched.keeps_revoke sound.tidy other found, other⟩
  | awaited | rejected | refusing | announcing => exact ⟨.refl _ _, spares⟩
  | registered taken =>
    have other : c.id ≠ r.id := Ne.symm spares
    exact ⟨attached.keeps_registry reachable fun held => held.insert other taken, spares⟩
  | spawned =>
    rw [Supervisor.install_of_unhandled (sound.claimed current rfl)]
    exact ⟨matched.keeps_spawn spares false, spares⟩

theorem Attached.detachStep {stage next : DetachStage} {t : Supervisor} {k : Cluster}
    (attached : w.Attached c) (reachable : w.Reachable)
    (current : w.call = some (.detach r stage))
    (spares : (Call.detach r stage).Spares w.supervisor.stopped c)
    (moved : w.supervisor.DetachStep r w.cluster stage next t k) :
    w.supervisor.Keeps t c ∧ (Call.detach r next).Spares w.supervisor.stopped c := by
  cases moved with
  | unhandled => exact ⟨.refl _ _, trivial⟩
  | claimed found =>
    exact ⟨reachable.matched.keeps_revoke reachable.sound.tidy spares found, spares⟩
  | awaited => exact ⟨.refl _ _, spares⟩
  | @released handle =>
    have own : handle.streamClass.id = r.id :=
      reachable.matched.detached current handle List.mem_cons_self
    have other : c.id ≠ handle.streamClass.id := fun same => spares (own.symm.trans same.symm)
    exact ⟨attached.keeps_registry reachable fun held => held.remove other, trivial⟩

/-- A call that spares a class keeps all that belongs to it, and goes on sparing it. -/
theorem Attached.callStep {now : String} {call next : Call} {t : Supervisor} {k : Cluster}
    (attached : w.Attached c) (reachable : w.Reachable) (current : w.call = some call)
    (spares : call.Spares w.supervisor.stopped c)
    (taken : w.supervisor.stepCall now call w.cluster = some (next, t, k)) :
    w.supervisor.Keeps t c ∧ next.Spares w.supervisor.stopped c := by
  cases Supervisor.callStep_of_stepCall taken with
  | attach moved => exact attached.attachStep reachable current spares moved
  | detach moved => exact attached.detachStep reachable current spares moved
  | stop moved => cases moved <;> exact absurd spares id

/-! ## Runs -/

/-- The class is attached, and the call under way spares it. -/
structure Undisturbed (w v : Session) (c : StreamClass) : Prop where
  attached : v.Attached c
  stopped : v.supervisor.stopped = w.supervisor.stopped
  spares : ∀ {call}, v.call = some call → call.Spares v.supervisor.stopped c

/-- The handle of a class that is kept stands. -/
theorem Attached.keeps {t : Supervisor} {call : Option Call} {k : Cluster} (attached : w.Attached c)
    (keeps : w.supervisor.Keeps t c) : Attached ⟨t, call, k⟩ c :=
  (congrArg (Option.map Handle.streamClass) keeps.handle).trans attached

theorem Undisturbed.turn (undisturbed : Undisturbed w v c) (reachable : v.Reachable)
    (turn : Turn v u) : Undisturbed w u c := by
  obtain ⟨attached, stopped, spares⟩ := undisturbed
  cases turn with
  | pipeline taken =>
    have same := Supervisor.stopped_of_stepPipeline reachable.sound.tidy taken
    have kept := reachable.matched.class?_of_stepPipeline reachable.sound.tidy taken c.id
    refine ⟨kept.trans attached, same.trans stopped, ?_⟩
    intro call current
    rw [same]
    exact spares current
  | call current taken =>
    obtain ⟨keeps, spares'⟩ := attached.callStep reachable current (spares current) taken
    rcases (Supervisor.callStep_of_stepCall taken).stopped_eq with same | rfl
    · refine ⟨attached.keeps keeps, same.trans stopped, ?_⟩
      intro _ current'
      obtain rfl := Option.some.inj current'
      rw [same]
      exact spares'
    · exact absurd (spares current) id
  | elsewhere => exact ⟨attached, stopped, spares⟩

end Session

/-- The event does not touch what stands under the id of a class: its class has another id, or it is
attached, for the same generation or to a supervisor that was stopped. -/
def Event.Spares (event : Event StreamClass) (stopped : Bool) (c : StreamClass) : Prop :=
  event.resource.id ≠ c.id ∨ event.type ≠ .deleted ∧
    (stopped = true ∨ event.resource.metadata.generation = c.metadata.generation)

theorem Event.classCall_spares {event : Event StreamClass} {stopped : Bool} {c : StreamClass} :
    event.classCall.Spares stopped c ↔ event.Spares stopped c := by
  obtain ⟨type, r⟩ := event
  cases type <;> simp [classCall, Call.Spares, Call.ofAttach, Call.ofDetach, Event.Spares]

namespace Session

variable {w v u : Session} {c r : StreamClass} {events : List (Event StreamClass)} {handle : Handle}

theorem Processed.undisturbed (processed : w.Processed events v) (reachable : w.Reachable)
    (idle : w.IsIdle) (attached : w.Attached c)
    (spare : ∀ event ∈ events, event.Spares w.supervisor.stopped c) : Undisturbed w v c := by
  induction processed with
  | start => exact ⟨attached, rfl, fun current => Call.spares_of_result (idle _ current)⟩
  | @taken events v before _ event ih =>
    obtain ⟨attached, stopped, -⟩ := ih fun e member => spare e (List.mem_append_left _ member)
    refine ⟨attached, stopped, ?_⟩
    intro _ current
    obtain rfl := Option.some.inj current
    have spares := spare event (List.mem_append_right _ List.mem_cons_self)
    exact Event.classCall_spares.2 (stopped ▸ spares)
  | turn before turn ih => exact (ih spare).turn (reachable.reaches before.reaches) turn

/-- No step of the call under way changes anything that belongs to the class. -/
def Untouched (w : Session) (c : StreamClass) : Prop :=
  ∀ {now call next t k}, w.call = some call →
    w.supervisor.stepCall now call w.cluster = some (next, t, k) → w.supervisor.Keeps t c

/-- The deletion of a class with the id takes the handle away. -/
theorem Attached.touched_by_detach (attached : w.Attached c) (own : r.id = c.id)
    (current : w.call = some (.detach r .claiming)) : ¬ w.Untouched c := by
  intro untouched
  obtain ⟨handle, found, -⟩ := Option.map_eq_some_iff.1 attached
  rw [← own] at found
  have taken : w.supervisor.stepCall "" (.detach r .claiming) w.cluster =
      some (.detach r (.awaiting handle), w.supervisor.revoke r.id handle, w.cluster) := by
    simp [Supervisor.stepCall, Supervisor.stepDetach, Supervisor.release, found, Supervisor.revoke]
  have kept := (untouched current taken).handle
  rw [← own, found, Supervisor.handles_revoke, Table.get?_erase_self] at kept
  cases kept

/-- So does an attaching for another generation. -/
theorem Attached.touched_by_attach (attached : w.Attached c) (reachable : w.Reachable)
    (own : r.id = c.id) (differs : r.metadata.generation ≠ c.metadata.generation)
    (current : w.call = some (.attach r .claiming)) : ¬ w.Untouched c := by
  intro untouched
  obtain ⟨handle, found, -, generation, -⟩ := attached.inPlace reachable
  rw [← own] at found
  have outdated : ¬ (handle.generation = r.metadata.generation ∧
      w.supervisor.hasFinished handle.seq = false) :=
    fun same => differs (same.1.symm.trans generation)
  have taken : w.supervisor.stepCall "" (.attach r .claiming) w.cluster =
      some (.attach r (.awaiting handle.seq), w.supervisor.revoke r.id handle, w.cluster) := by
    simp only [Supervisor.stepCall, Supervisor.stepAttach, Supervisor.claim, found, if_neg outdated]
    rfl
  have kept := (untouched current taken).handle
  rw [← own, found, Supervisor.handles_revoke, Table.get?_erase_self] at kept
  cases kept

/-- The processing of an event that does not spare a class touches the class. -/
theorem Attached.touched_by_event (attached : w.Attached c) (reachable : w.Reachable)
    (idle : w.IsIdle) {event : Event StreamClass}
    (unsparing : ¬ event.Spares w.supervisor.stopped c) :
    ∃ v, w.Processed [event] v ∧ ¬ v.Untouched c := by
  have begun := Processed.one idle event
  obtain ⟨type, r⟩ := event
  simp only [Event.Spares, not_or, not_and, not_not] at unsparing
  obtain ⟨own, forced⟩ := unsparing
  by_cases deleted : type = .deleted
  · subst deleted
    exact ⟨_, begun, Attached.touched_by_detach attached own rfl⟩
  · obtain ⟨running, differs⟩ := forced deleted
    have running : w.supervisor.stopped = false := by simpa using running
    have call : Event.classCall ⟨type, r⟩ = .attach r .checking := by
      cases type with
      | added | modified => rfl
      | deleted => exact absurd rfl deleted
    rw [call] at begun
    have checked : w.supervisor.stepCall "" (.attach r .checking) w.cluster =
        some (.attach r .claiming, w.supervisor, w.cluster) := by
      simp [Supervisor.stepCall, Supervisor.stepAttach, running]
    have claiming := begun.turn (.call rfl checked)
    refine ⟨_, claiming, ?_⟩
    exact Attached.touched_by_attach attached (reachable.reaches claiming.reaches) own differs rfl

/-- Whichever of some events are processed, an attached class stays in place and no call touches it, if
and only if each event is of a class with another id, or is an attaching for the same generation or to a
supervisor that was stopped. -/
theorem attached_class_is_undisturbed_iff (reachable : w.Reachable) (idle : w.IsIdle)
    (attached : w.Attached c) (allowed : Event StreamClass → Prop) :
    (∀ events v, (∀ event ∈ events, allowed event) → w.Processed events v →
      v.InPlace c ∧ v.Untouched c) ↔
    ∀ event, allowed event → event.resource.id ≠ c.id ∨ event.type ≠ .deleted ∧
      (w.supervisor.stopped = true ∨
        event.resource.metadata.generation = c.metadata.generation) := by
  constructor
  · intro undisturbed event permitted
    by_contra unsparing
    obtain ⟨v, processed, touched⟩ := attached.touched_by_event reachable idle unsparing
    have all : ∀ e ∈ [event], allowed e := by
      intro e member
      rw [List.mem_singleton.1 member]
      exact permitted
    exact touched (undisturbed _ v all processed).2
  · intro spare events v permitted processed
    have spared : ∀ event ∈ events, event.Spares w.supervisor.stopped c :=
      fun event member => spare event (permitted event member)
    obtain ⟨attached', -, spares⟩ := processed.undisturbed reachable idle attached spared
    have reachable' := reachable.reaches processed.reaches
    refine ⟨attached'.inPlace reachable', fun current taken => ?_⟩
    exact (attached'.callStep reachable' current (spares current) taken).1

/-! ## A rival in the same namespace -/

/-- Another class for the kind, in the same namespace. -/
def rival : StreamClass := { sqlServer with metadata.name := some "rival" }

/-- The session in which the class has been attached. -/
def served : Session := attaching (informed.spawn sqlServer false) (.done (.ok ()))

theorem served_reachable : served.Reachable :=
  attaching_reachable.step (@Step.call (attaching (informed.spawn sqlServer false)
    (.announcing .reading)) "" _ _ _ _ rfl rfl)

theorem served_idle : served.IsIdle := by
  intro call current
  cases current
  rfl

theorem served_attached : served.Attached sqlServer :=
  (Supervisor.class?_spawn _ _).trans (if_pos rfl)

/-- Another class for the kind, in another namespace. -/
def distantRival : StreamClass := { rival with metadata.space := some "other" }

/-- A class of another namespace is refused the kind and leaves the attached class in place. -/
theorem class_of_other_namespace_is_refused : ∃ v e, served.Processed [⟨.added, distantRival⟩] v ∧
    v.call = some (.attach distantRival (.done (.error e))) ∧ v.InPlace sqlServer := by
  let calling (stage : AttachStage) : Session := { served with call := some (.attach distantRival stage) }
  have begun : served.Processed [⟨.added, distantRival⟩] (calling .checking) := .one served_idle _
  have claiming := begun.turn (@Turn.call (calling .checking) "" _ _ _ _ rfl rfl)
  have registering := claiming.turn (@Turn.call (calling .claiming) "" _ _ _ _ rfl rfl)
  have refusing := registering.turn (@Turn.call (calling .registering) "" _ _ _ _ rfl rfl)
  have processed := refusing.turn (@Turn.call (calling (.refusing _ .reading)) "" _ _ _ _ rfl rfl)
  have undisturbed := attached_class_is_undisturbed_iff served_reachable served_idle served_attached
    fun event => event.resource = distantRival
  refine ⟨_, _, processed, rfl, (undisturbed.2 ?_ _ _ ?_ processed).1⟩
  · rintro event own
    left
    rw [own]
    decide +kernel
  · simp

/-- The deletion of a rival takes the handle of the attached class away. -/
theorem rival_takes_the_handle : rival.reference ≠ sqlServer.reference ∧
    served.Reachable ∧ served.IsIdle ∧ served.InPlace sqlServer ∧
    ∃ v, served.Processed [⟨.deleted, rival⟩] v ∧ ¬ v.InPlace sqlServer := by
  refine ⟨by decide, served_reachable, served_idle, served_attached.inPlace served_reachable, ?_⟩
  have begun := Processed.one served_idle ⟨.deleted, rival⟩
  have revoked : Turn { served with call := some (.ofDetach rival) }
      ⟨(informed.spawn sqlServer false).revoke rival.id ⟨sqlServer, some 1, 0⟩,
        some (.detach rival (.awaiting ⟨sqlServer, some 1, 0⟩)), {}⟩ :=
    @Turn.call { served with call := some (.ofDetach rival) } "" _ _ _ _ rfl rfl
  refine ⟨_, begun.turn revoked, ?_⟩
  rintro ⟨handle, found, -⟩
  have own : sqlServer.id = rival.id := rfl
  rw [Supervisor.handles_revoke, own, Table.get?_erase_self] at found
  cases found

end Session

end StreamOperator
