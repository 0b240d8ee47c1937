import StreamOperator.Proofs.Cluster.Writes

/-!
# A cluster that others use as well

To carry out a command takes several calls. Before each of them others may have changed the cluster, and
each of them may fail, before it was carried out or after (`Turn`). `Shared.api` has the operations of
the cluster in memory under such conditions; what a single call does is said by its fate (`Shared.call`).
What all operations keep is kept by everything that is made of them (`Act.Keeps`).
-/

set_option autoImplicit false

namespace StreamOperator

/-! ## Invariants of operations -/

namespace Act

variable {σ α β : Type} {I : σ → Prop} {act : Act σ α} {f : α → Act σ β}

/-- What holds before the operation holds after it, whether it fails or not. -/
def Keeps (I : σ → Prop) (act : Act σ α) : Prop := ∀ s, I s → I (act s).2

theorem Reads.keeps (reads : act.Reads) : act.Keeps I := by
  intro s holds
  rwa [reads s]

theorem Keeps.bind (first : act.Keeps I) (next : ∀ a, (f a).Keeps I) : (act >>= f).Keeps I := by
  intro s holds
  have kept := first s holds
  cases run : act s with
  | mk result s' =>
    rw [run] at kept
    cases result with
    | error e =>
      rw [bind_error run]
      exact kept
    | ok a =>
      rw [bind_ok run]
      exact next a s' kept

end Act

/-! ## Turns -/

/-- What becomes of a call. -/
inductive Fate where
  | answered
  /-- Nothing is done. -/
  | refused (e : Failure)
  /-- What was asked for is done, but the answer is a failure. -/
  | unanswered (e : Failure)

namespace Fate

def isAnswered : Fate → Bool
  | answered => true
  | refused _ | unanswered _ => false

/-- What was asked for is done. -/
def takesEffect : Fate → Bool
  | answered | unanswered _ => true
  | refused _ => false

end Fate

/-- One call: what others do to the cluster before it, and what becomes of it. -/
structure Turn where
  others : Cluster → Cluster := id
  fate : Fate := .answered

/-- A cluster with the turns that calls to it will take. -/
structure Shared where
  cluster : Cluster
  turns : Nat → Turn

namespace Shared

variable {α : Type} {s : Shared}

/-- The cluster as the next call finds it. -/
def met (s : Shared) : Cluster := (s.turns 0).others s.cluster

/-- After the next call has left a cluster. -/
def next (s : Shared) (k : Cluster) : Shared := ⟨k, fun n => s.turns (n + 1)⟩

/-- An operation of the cluster as a call. -/
def call (operation : Act Cluster α) : Act Shared α := fun s =>
  match (s.turns 0).fate with
  | .answered => ((operation s.met).1, s.next (operation s.met).2)
  | .refused e => (.error e, s.next s.met)
  | .unanswered e => (.error e, s.next (operation s.met).2)

/-- The operations of the cluster in memory as calls. -/
def api : ClusterApi Shared where
  getResource c space name := call (Cluster.getResource c space name)
  patchStatus c space name status := call (Cluster.patchStatus c space name status)
  annotateResource c space name key value := call (Cluster.annotateResource c space name key value)
  getJob space name := call (Cluster.getJob space name)
  sendJob job space := call (Cluster.sendJob job space)
  deleteJob space name := call (Cluster.deleteJob space name)
  annotateJob space name key value := call (Cluster.annotateJob space name key value)

/-- A call leaves the cluster that its fate says. -/
theorem call_snd (operation : Act Cluster α) (s : Shared) : (call operation s).2 =
    s.next (if (s.turns 0).fate.takesEffect then (operation s.met).2 else s.met) := by
  unfold call
  cases (s.turns 0).fate <;> rfl

theorem call_of_answered (operation : Act Cluster α) (answered : (s.turns 0).fate.isAnswered = true) :
    call operation s = ((operation s.met).1, s.next (operation s.met).2) := by
  unfold call
  cases fate : (s.turns 0).fate with
  | answered => rfl
  | refused e => simp [fate, Fate.isAnswered] at answered
  | unanswered e => simp [fate, Fate.isAnswered] at answered

/-- A call without an answer fails, and leaves as it was what it was to read. -/
theorem call_of_unanswered {operation : Act Cluster α} (reads : operation.Reads)
    (unanswered : (s.turns 0).fate.isAnswered = false) :
    ∃ e, call operation s = (.error e, s.next s.met) := by
  unfold call
  cases fate : (s.turns 0).fate with
  | answered => simp [fate, Fate.isAnswered] at unanswered
  | refused e => exact ⟨e, rfl⟩
  | unanswered e => exact ⟨e, by simp only [reads s.met]⟩

section

variable {c : Coordinates} {space name : String}

/-- What follows a request for a resource that was answered goes on with what was stored then. -/
theorem getResource_bind (works : s.met.failing = []) (answered : (s.turns 0).fate.isAnswered = true)
    (f : Option Resource → Act Shared α) : (api.getResource c space name >>= f) s =
      f (s.met.resource? c space name) (s.next s.met) := by
  refine Act.bind_ok ((call_of_answered _ answered).trans ?_)
  rw [Cluster.getResource_apply, works]
  rfl

theorem getJob_bind (works : s.met.failing = []) (answered : (s.turns 0).fate.isAnswered = true)
    (f : Option Job → Act Shared α) : (api.getJob space name >>= f) s =
      f (s.met.job? space name) (s.next s.met) := by
  refine Act.bind_ok ((call_of_answered _ answered).trans ?_)
  rw [Cluster.getJob_apply, works]
  rfl

end

/-- Nothing follows a request that was not answered. -/
theorem bind_of_unanswered {β : Type} {operation : Act Cluster β} (reads : operation.Reads)
    (unanswered : (s.turns 0).fate.isAnswered = false) (f : β → Act Shared α) :
    ∃ e, (call operation >>= f) s = (.error e, s.next s.met) := by
  obtain ⟨e, failed⟩ := call_of_unanswered reads unanswered
  exact ⟨e, Act.bind_error failed⟩

/-- Nobody else changes the cluster. -/
def Calm (s : Shared) : Prop := ∀ n, (s.turns n).others = id

theorem Calm.met (calm : s.Calm) : s.met = s.cluster := by rw [Shared.met, calm 0, id]

theorem Calm.next (calm : s.Calm) (k : Cluster) : (s.next k).Calm := fun n => calm (n + 1)

/-- The cluster under a script of fates, with nobody else about. -/
def alone (k : Cluster) (fates : Nat → Fate) : Shared := ⟨k, fun n => { fate := fates n }⟩

end Shared

end StreamOperator
