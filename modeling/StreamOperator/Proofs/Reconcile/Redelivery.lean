import StreamOperator.Proofs.Event.Repeats
import StreamOperator.Proofs.Reconcile.World

/-!
# Events that are delivered again

A reconciler notes the version of an event before it looks up what it needs for it. So an event that
failed there counts as seen (`failed_event_counts_as_seen`): delivered again it is dropped, and has the
effect that it has in a reconciler that never saw it only after another version of the resource came, or
after the resource was forgotten, or where that effect is none.
-/

set_option autoImplicit false

namespace StreamOperator

namespace Reconciler

variable {σ α : Type} {r : Reconciler σ α} {h : Handler σ} {d : Deduplicator} {choice : Nat}
  {event : Event α} {version : String} {s s' : σ} {e : Failure}

/-- What the resource of an event is remembered by. -/
def keyOf (r : Reconciler σ α) (event : Event α) : EventKey :=
  Deduplicator.keyOf r.kind (r.metadata event.resource)

/-- What the processing of an event leaves, from what is remembered before. -/
def leaves (r : Reconciler σ α) (h : Handler σ) (choice : Nat) (d : Deduplicator) (event : Event α)
    (s : σ) : σ := ((r.process h choice d event).2 s).2

/-- The event has the effect that it has in a reconciler that never saw it. -/
def TakesEffect (r : Reconciler σ α) (h : Handler σ) (d : Deduplicator) (event : Event α) (s : σ) : Prop :=
  ∀ choice choice' capacity, r.leaves h choice d event s = r.leaves h choice' (.empty capacity) event s

/-- Whether an event passes is decided by what is remembered of its resource. -/
theorem process_of_version (versioned : (r.metadata event.resource).resourceVersion = some version)
    (h : Handler σ) (choice : Nat) (d : Deduplicator) :
    r.process h choice d event =
      ((d.judge choice (r.keyOf event) version).2,
        if Table.get? (r.keyOf event) d.seen = some version then pure () else r.perform h event) := by
  have judged : d.filter choice r.kind (r.metadata event.resource) =
      d.judge choice (r.keyOf event) version := Deduplicator.filter_of_version versioned
  rw [process, judged]
  show ((d.judge choice (r.keyOf event) version).2,
    if (d.judge choice (r.keyOf event) version).1 = true then r.perform h event else pure ()) = _
  by_cases repeated : Table.get? (r.keyOf event) d.seen = some version
  · rw [if_pos repeated, if_neg fun passes => Deduplicator.judge_fst.1 passes repeated]
  · rw [if_neg repeated, if_pos (Deduplicator.judge_fst.2 repeated)]

theorem takesEffect_iff (versioned : (r.metadata event.resource).resourceVersion = some version) :
    r.TakesEffect h d event s ↔
      Table.get? (r.keyOf event) d.seen ≠ some version ∨ (r.perform h event s).2 = s := by
  have unseen : ∀ choice capacity, r.leaves h choice (.empty capacity) event s = (r.perform h event s).2 := by
    intro choice capacity
    rw [leaves, process_of_version versioned, if_neg nofun]
  by_cases repeated : Table.get? (r.keyOf event) d.seen = some version
  · have dropped : ∀ choice, r.leaves h choice d event s = s := by
      intro choice
      rw [leaves, process_of_version versioned, if_pos repeated]
      rfl
    rw [or_iff_right (not_not.2 repeated)]
    constructor
    · intro same
      exact (unseen 0 0).symm.trans ((same 0 0 0).symm.trans (dropped 0))
    · intro idle choice choice' capacity
      rw [dropped, unseen, idle]
  · refine iff_of_true (fun choice choice' capacity => ?_) (.inl repeated)
    rw [unseen, leaves, process_of_version versioned, if_neg repeated]

/-- An event that failed before anything was done for it counts as seen. -/
structure CountsAsSeen (r : Reconciler σ α) (h : Handler σ) (choice : Nat) (d : Deduplicator)
    (event : Event α) (version : String) (s : σ) (e : Failure) (s' : σ) : Prop where
  fails : (r.process h choice d event).2 s = (.error e, s')
  /-- Delivered again at once it is dropped, whatever works by then. -/
  dropped : ∀ (h' : Handler σ) choice' t,
    (r.process h' choice' (r.process h choice d event).1 event).2 t = (.ok (), t)
  /-- It takes effect later only if another version of its resource came last, or the resource was
  forgotten, or there is no effect to take. -/
  later : ∀ (h' : Handler σ) (arrivals : List Deduplicator.Arrival) t,
    let seen := (r.process h choice d event).1.after arrivals
    r.TakesEffect h' seen event t ↔
      (∃ other, Deduplicator.lastVersion? (r.keyOf event) arrivals = some other ∧ other ≠ version) ∨
      Table.get? (r.keyOf event) seen.seen = none ∨ (r.perform h' event t).2 = t
  /-- It is not forgotten while there is room for all resources. -/
  remembered : ∀ arrivals : List Deduplicator.Arrival,
    let seen := (r.process h choice d event).1
    (Table.keys seen.seen ∪ Table.keys (Deduplicator.versions arrivals)).card ≤ d.capacity →
      Table.get? (r.keyOf event) (seen.after arrivals).seen ≠ none

theorem countsAsSeen (sound : d.Sound)
    (versioned : (r.metadata event.resource).resourceVersion = some version)
    (passes : (d.filter choice r.kind (r.metadata event.resource)).1 = true)
    (failed : r.plan h.api event s = (.error e, s')) :
    r.CountsAsSeen h choice d event version s e s' := by
  have processed : r.process h choice d event =
      ((d.judge choice (r.keyOf event) version).2, r.perform h event) := by
    have new : Table.get? (r.keyOf event) d.seen ≠ some version := by
      rw [Deduplicator.filter_of_version versioned] at passes
      exact Deduplicator.judge_fst.1 passes
    rw [process_of_version versioned, if_neg new]
  have noted : Table.get? (r.keyOf event) (d.judge choice (r.keyOf event) version).2.seen = some version :=
    Deduplicator.get?_judge_self
  have sound' := sound.judge choice (r.keyOf event) version
  refine ⟨?_, fun h' choice' t => ?_, fun h' arrivals t => ?_, fun arrivals room => ?_⟩
  · rw [processed]
    exact Act.bind_error failed
  · rw [processed, process_of_version versioned, if_pos noted]
    rfl
  · rw [processed]
    simp only
    rw [takesEffect_iff versioned, ← or_assoc]
    -- Unless it was forgotten, the version that came last is compared with the one that was noted.
    refine or_congr_left ?_
    rcases Deduplicator.remembered_after sound' arrivals (r.keyOf event) with forgotten | same
    · simp [forgotten]
    · rw [same, noted]
      cases Deduplicator.lastVersion? (r.keyOf event) arrivals <;> simp
  · rw [processed] at room ⊢
    rw [← Deduplicator.capacity_judge] at room
    rw [Deduplicator.get?_after_of_room sound' room, noted]
    cases Deduplicator.lastVersion? (r.keyOf event) arrivals <;> simp

theorem planStream_of_error {c : Coordinates} {api : ClusterApi σ} {event : Event Resource}
    (present : event.type ≠ .deleted)
    (failed : api.getJob (event.definition c).space (event.definition c).id s = (.error e, s')) :
    planStream c api event s = (.error e, s') := by
  unfold planStream
  rw [if_neg present]
  exact Act.bind_error failed

theorem planJob_of_error {api : ClusterApi σ} {event : Event Job} {ref : StreamRef}
    (looked : event.type ≠ .modified) (recorded : event.resource.owner? = some ref)
    (failed : api.getResource ref.coordinates ref.space ref.name s = (.error e, s')) :
    planJob api event s = (.error e, s') := by
  have unread : owner api event.resource s = (.error e, s') := by
    unfold owner
    rw [recorded]
    exact Act.bind_error failed
  unfold planJob
  rw [if_neg looked]
  exact Act.bind_error unread

end Reconciler

/-- An event counts as seen although the job of its stream, or the definition that owns its job, could not be
looked up. -/
theorem failed_event_counts_as_seen {σ : Type} (h : Handler σ) {d : Deduplicator} (sound : d.Sound)
    (choice : Nat) (s s' : σ) (e : Failure) :
    (∀ (c : Coordinates) (event : Event Resource) (version : String),
      event.resource.metadata.resourceVersion = some version →
      (d.filter choice c.kind event.resource.metadata).1 = true → event.type ≠ .deleted →
      h.api.getJob (event.definition c).space (event.definition c).id s = (.error e, s') →
      (Reconciler.stream c).CountsAsSeen h choice d event version s e s') ∧
    ∀ (event : Event Job) (ref : StreamRef) (version : String),
      event.resource.metadata.resourceVersion = some version →
      (d.filter choice "Job" event.resource.metadata).1 = true → event.type ≠ .modified →
      event.resource.owner? = some ref →
      h.api.getResource ref.coordinates ref.space ref.name s = (.error e, s') →
      Reconciler.job.CountsAsSeen h choice d event version s e s' := by
  constructor
  · intro c event version versioned passes present failed
    exact Reconciler.countsAsSeen sound versioned passes (Reconciler.planStream_of_error present failed)
  · intro event ref version versioned passes looked recorded failed
    exact Reconciler.countsAsSeen sound versioned passes
      (Reconciler.planJob_of_error looked recorded failed)

section Orders

/-- The orders were suspended. -/
def suspension : Event Resource := ⟨.modified, (Orders.definition "3" (some .suspended)).resource⟩

/-- The orders are suspended and still have their job. -/
def haltedCluster : Cluster :=
  Orders.cluster (Orders.definition "3" (some .suspended)) [Orders.job "2" none []]

/-- Nobody can read a job. -/
def unreadableJobs : Cluster := { haltedCluster with failing := ["get_job"] }

/-- The suspension counts as seen although nobody could read the job. -/
theorem failed_suspension_counts_as_seen :
    (Reconciler.stream Orders.kind).CountsAsSeen (Orders.setting "").handler 0 (.empty 8) suspension "3"
      unreadableJobs (Cluster.refusal 500 "injected failure") unreadableJobs :=
  (failed_event_counts_as_seen (Orders.setting "").handler (Deduplicator.sound_empty 8) 0 unreadableJobs
    unreadableJobs (Cluster.refusal 500 "injected failure")).1 Orders.kind suspension "3" rfl rfl nofun rfl

/-- A failed event need not take effect when it is delivered again and the job can be read: the suspended
orders keep their job, which a reconciler that never saw the suspension stops. -/
theorem failed_suspension_is_lost :
    ¬ ∀ (c : Coordinates) (h : Handler Cluster) (d : Deduplicator) (choice : Nat) (event : Event Resource)
        (version : String) (s s' t : Cluster) (e : Failure), d.Sound →
      event.resource.metadata.resourceVersion = some version →
      (d.filter choice c.kind event.resource.metadata).1 = true → event.type ≠ .deleted →
      h.api.getJob (event.definition c).space (event.definition c).id s = (.error e, s') →
      (∃ found, h.api.getJob (event.definition c).space (event.definition c).id t = (.ok found, t)) →
      (Reconciler.stream c).TakesEffect h ((Reconciler.stream c).process h choice d event).1 event t := by
  intro claim
  have same := claim Orders.kind (Orders.setting "").handler (.empty 8) 0 suspension "3" unreadableJobs
    unreadableJobs haltedCluster (Cluster.refusal 500 "injected failure") (Deduplicator.sound_empty 8)
    rfl rfl nofun rfl ⟨_, rfl⟩ 0 0 8
  have differ : haltedCluster.jobs.length ≠ ((Reconciler.stream Orders.kind).leaves
      (Orders.setting "").handler 0 (.empty 8) suspension haltedCluster).jobs.length := by
    decide +kernel
  exact differ (congrArg (·.jobs.length) same)

end Orders

end StreamOperator
