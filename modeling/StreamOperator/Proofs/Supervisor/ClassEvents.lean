import StreamOperator.Proofs.Supervisor.Registration
import StreamOperator.Supervisor.ClassWatch

/-!
# Sessions that process class events

The events of stream classes are processed one after another: each becomes a call, and the next one is
taken when the call is over. Between the steps of the call the pipelines take theirs, and others write
to the cluster; nobody stops the supervisor (`Session.Processed`). A class is attached as long as the
handle under its id is of the class (`Session.Attached`); the rest of what is in place for it follows
(`Attached.inPlace`).
-/

set_option autoImplicit false

namespace StreamOperator

/-- The call that an event of a class asks for. -/
def Event.classCall (event : Event StreamClass) : Call :=
  match event.type with
  | .added | .modified => .ofAttach event.resource
  | .deleted => .ofDetach event.resource

theorem Event.classCall_isFresh (event : Event StreamClass) : event.classCall.IsFresh := by
  unfold classCall
  split <;> trivial

namespace Session

variable {w v u : Session} {events : List (Event StreamClass)} {c : StreamClass}

/-- A step of a pipeline or of the call under way, or a write of somebody else to the cluster. -/
inductive Turn : Session → Session → Prop where
  | pipeline {w : Session} {now : String} {clock seq : Nat} {s : Supervisor} {k : Cluster}
      (taken : w.supervisor.stepPipeline now clock seq w.cluster = some (s, k)) :
      Turn w { w with supervisor := s, cluster := k }
  | call {w : Session} {now : String} {call next : Call} {s : Supervisor} {k : Cluster}
      (current : w.call = some call)
      (taken : w.supervisor.stepCall now call w.cluster = some (next, s, k)) :
      Turn w ⟨s, some next, k⟩
  | elsewhere {w : Session} (k : Cluster) : Turn w { w with cluster := k }

theorem Turn.step (turn : Turn w v) : Step w v := by
  cases turn with
  | pipeline taken => exact .pipeline taken
  | call current taken => exact .call current taken
  | elsewhere k => exact .elsewhere k

/-- A session after events have been processed one after another, the last one perhaps not yet to
its end. -/
inductive Processed (w : Session) : List (Event StreamClass) → Session → Prop where
  | start : Processed w [] w
  | taken {events : List (Event StreamClass)} {v : Session} (before : Processed w events v)
      (idle : v.IsIdle) (event : Event StreamClass) :
      Processed w (events ++ [event]) { v with call := some event.classCall }
  | turn {events : List (Event StreamClass)} {v u : Session} (before : Processed w events v)
      (turn : Turn v u) : Processed w events u

theorem Processed.reaches (processed : w.Processed events v) : Reaches w v := by
  induction processed with
  | start => exact .refl
  | taken _ idle event ih => exact ih.tail (.begin idle event.classCall_isFresh)
  | turn _ turn ih => exact ih.tail turn.step

/-- The processing of the first of some events. -/
theorem Processed.one (idle : w.IsIdle) (event : Event StreamClass) :
    w.Processed [event] { w with call := some event.classCall } :=
  .taken .start idle event

end Session

/-! ## Classes in place -/

/-- The class of the handle under an id. -/
def Supervisor.class? (s : Supervisor) (id : String) : Option StreamClass :=
  (Table.get? id s.handles).map Handle.streamClass

namespace Supervisor

variable {s : Supervisor} {c : StreamClass} {id : String} {handle : Handle}

theorem class?_of_get? (found : Table.get? id s.handles = some handle) :
    s.class? id = some handle.streamClass := by
  rw [class?, found]
  rfl

theorem class?_eq_none_iff : s.class? id = none ↔ Table.get? id s.handles = none :=
  Option.map_eq_none_iff

theorem class?_spawn (restarted : Bool) (id : String) :
    (s.spawn c restarted).class? id = if id = c.id then some c else s.class? id := by
  rw [class?, handle?_spawn]
  split <;> rfl

theorem class?_revoke (other : String) :
    (s.revoke id handle).class? other = if other = id then none else s.class? other := by
  rw [class?, handles_revoke]
  split
  · rename_i same
    rw [same, Table.get?_erase_self]
    rfl
  · rename_i differs
    rw [Table.get?_erase_of_ne differs]
    rfl

end Supervisor

namespace Session

variable {w v u : Session} {c : StreamClass} {id : String}

/-- The handle under the id of a class is of the class. -/
def Attached (w : Session) (c : StreamClass) : Prop := w.supervisor.class? c.id = some c

/-- All that belongs to an attached class: its handle, its entry in the registry and, unless the
supervisor is stopped, its pipeline, which nobody told to stop. -/
def InPlace (w : Session) (c : StreamClass) : Prop :=
  ∃ handle, Table.get? c.id w.supervisor.handles = some handle ∧ handle.streamClass = c ∧
    handle.generation = c.metadata.generation ∧
    w.supervisor.registry.get? c.spec.kindRef = some c ∧
    (w.supervisor.stopped = false → ∃ p, w.supervisor.pipeline? handle.seq = some p ∧
      p.streamClass = c ∧ w.supervisor.isCancelled p = false)

theorem Matched.id_of_class? (matched : w.Matched) (found : w.supervisor.class? id = some c) :
    c.id = id := by
  obtain ⟨handle, standing, rfl⟩ := Option.map_eq_some_iff.1 found
  exact matched.named _ (Table.mem_of_get? standing)

theorem relies_of_class? (found : w.supervisor.class? id = some c) : w.Relies c := by
  obtain ⟨handle, standing, same⟩ := Option.map_eq_some_iff.1 found
  exact .handle (hands_of_get? standing) same

theorem Attached.inPlace (attached : w.Attached c) (reachable : w.Reachable) : w.InPlace c := by
  obtain ⟨handle, found, rfl⟩ := Option.map_eq_some_iff.1 attached
  have member := Table.mem_of_get? found
  have matched := reachable.matched
  refine ⟨handle, found, rfl, matched.generation _ member, (reachable.registry_get? found).2, ?_⟩
  intro running
  obtain ⟨p, hp, active⟩ := matched.staffed running _ member
  refine ⟨p, hp, (matched.backed_of_mem member).served hp, ?_⟩
  rw [Supervisor.isCancelled, running, active]
  rfl

/-- A step of a pipeline may put a new handle in the place of one, but of the same class. -/
theorem Matched.class?_of_stepPipeline {now : String} {clock m : Nat} {t : Supervisor} {k : Cluster}
    (matched : w.Matched) (tidy : w.supervisor.Tidy)
    (taken : w.supervisor.stepPipeline now clock m w.cluster = some (t, k)) (id : String) :
    t.class? id = w.supervisor.class? id := by
  obtain ⟨p, stage, s', stood, rfl, -, rfl, standing⟩ :=
    Supervisor.advance_of_stepPipeline tidy taken
  rcases standing with rfl | ⟨-, -, rfl, handle, own, seq⟩
  · rfl
  · have replaced := Supervisor.class?_spawn (s := w.supervisor) (c := p.streamClass) true id
    refine Eq.trans replaced ?_
    split
    · rename_i same
      have class_eq := (matched.backed (hands_of_get? own)).served (seq ▸ stood)
      rw [Supervisor.class?, same, own, Option.map_some, class_eq]
    · rfl

end Session

end StreamOperator
