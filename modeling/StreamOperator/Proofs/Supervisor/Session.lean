import Mathlib.Logic.Relation
import StreamOperator.Supervisor.Call
import StreamOperator.Supervisor.Pipeline

/-!
# Sessions of a supervisor

A session is a supervisor together with the cluster and the call that is under way. Calls come one at
a time; a call and the pipelines take their steps in any order, and whoever else writes to the
cluster may do so between any two of them. The steps are those of `Supervisor.stepPipeline` and
`Supervisor.stepCall`, so a session can be interrupted wherever a lock is released or something is
waited for.
-/

set_option autoImplicit false

namespace StreamOperator

/-- The call before its first step. -/
def Call.IsFresh : Call → Prop
  | .attach _ .checking | .detach _ .claiming | .stop .cancelling => True
  | _ => False

structure Session where
  supervisor : Supervisor
  /-- The call under way, or the last one when it is over. -/
  call : Option Call := none
  cluster : Cluster

namespace Session

/-- No call is under way. -/
def IsIdle (w : Session) : Prop := ∀ call, w.call = some call → call.result?.isSome = true

/-- One step of a session, at any time of the clock. -/
inductive Step : Session → Session → Prop where
  | pipeline {w : Session} {now : String} {clock seq : Nat} {s : Supervisor} {k : Cluster}
      (taken : w.supervisor.stepPipeline now clock seq w.cluster = some (s, k)) :
      Step w { w with supervisor := s, cluster := k }
  | call {w : Session} {now : String} {call next : Call} {s : Supervisor} {k : Cluster}
      (current : w.call = some call)
      (taken : w.supervisor.stepCall now call w.cluster = some (next, s, k)) :
      Step w ⟨s, some next, k⟩
  | begin {w : Session} {call : Call} (idle : w.IsIdle) (fresh : call.IsFresh) :
      Step w { w with call := some call }
  /-- The master token is cancelled from outside. -/
  | cancel {w : Session} : Step w { w with supervisor := w.supervisor.cancelAll }
  /-- Somebody else changes the cluster. -/
  | elsewhere {w : Session} (k : Cluster) : Step w { w with cluster := k }

/-- The session after any number of steps. -/
abbrev Reaches : Session → Session → Prop := Relation.ReflTransGen Step

/-- A supervisor that nobody has called yet. -/
def Initial (w : Session) : Prop :=
  w.call = none ∧ ∃ classes dedup delay buffer, w.supervisor = .create classes dedup delay buffer

def Reachable (w : Session) : Prop := ∃ start, Initial start ∧ Reaches start w

variable {w v : Session}

theorem Reachable.reaches (reachable : w.Reachable) (run : Reaches w v) : v.Reachable := by
  obtain ⟨start, initial, before⟩ := reachable
  exact ⟨start, initial, before.trans run⟩

theorem Reachable.step (reachable : w.Reachable) (step : Step w v) : v.Reachable :=
  reachable.reaches (.single step)

/-- What holds of unused supervisors and is kept by every step holds in all sessions that can be
reached. -/
theorem Reachable.invariant {P : Session → Prop} (reachable : w.Reachable)
    (first : ∀ {w}, w.Initial → P w)
    (kept : ∀ {w v}, w.Reachable → P w → Step w v → P v) : P w := by
  obtain ⟨start, initial, run⟩ := reachable
  induction run with
  | refl => exact first initial
  | tail before last ih => exact kept ⟨start, initial, before⟩ ih last

end Session

end StreamOperator
