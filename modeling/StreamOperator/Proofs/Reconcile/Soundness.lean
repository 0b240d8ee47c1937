import StreamOperator.Proofs.Reconcile.Steps

/-!
# What is known of every world

The invariant of a world is `World.Sound`. Jobs stand under their own names and are counted right; no
event and no decision is about a job that was not created yet; and every command that a reconciler has
yet to carry out follows from the event and the job it decided on. It holds whatever moves were made
(`Sound.run`).
-/

set_option autoImplicit false

namespace StreamOperator

/-- Jobs stand under their own names. -/
def Cluster.Placed (k : Cluster) : Prop :=
  ∀ {key : JobKey} {job : Job}, Table.get? key k.jobs = some job → job.key = key

/-- Commands leave jobs under their own names. -/
theorem JobEffect.placed {k k' : Cluster} {command : Command} (effect : JobEffect k k' command)
    (placed : k.Placed) : k'.Placed := by
  intro key job found
  have change := effect.change key
  rw [found] at change
  generalize before : Table.get? key k.jobs = entry at change
  cases change with
  | kept => exact placed before
  | marked place =>
    rw [place]
    exact placed before
  | created own place => exact place

/-- The key of a job does not depend on its version. -/
theorem Cluster.key_versionedJob (job : Job) (version : String) :
    (Cluster.versionedJob job version).key = job.key := rfl

/-- A report is about what was or is in the table. -/
theorem Event.ofChange_resource {α : Type} [DecidableEq α] {last : α → α} {old new : Option α}
    {event : Event α} (changed : Event.ofChange last old new = some event) :
    (∃ value, old = some value ∧ event.resource = last value) ∨ new = some event.resource := by
  unfold Event.ofChange at changed
  split at changed
  · cases changed
  · obtain rfl := Option.some.inj changed
    exact .inr rfl
  · obtain rfl := Option.some.inj changed
    exact .inl ⟨_, rfl, rfl⟩
  · split at changed
    · cases changed
    · obtain rfl := Option.some.inj changed
      exact .inr rfl

namespace World

variable {w v : World} {k : Cluster} {deletion : String} {setting : Setting}

structure Sound (w : World) : Prop where
  placed : w.cluster.Placed
  balance : ∀ key, w.created key = w.deleted key + (Table.contains key w.cluster.jobs).toNat
  queued : ∀ {event n}, (event, n) ∈ w.jobEvents → n ≤ w.created event.resource.key
  taken : ∀ {event n}, w.jobBasis = some (event, n) → n ≤ w.created event.resource.key
  seen : ∀ {event seen}, w.streamBasis = some (event, some seen) →
    seen.incarnation ≤ w.created seen.job.key
  received : ∀ {ticket event}, w.jobStage = .received ticket event →
    ∃ n, w.jobBasis = some (event, n)
  streamDecided : ∀ {command}, command ∈ w.streamStage.commands → ∃ event seen,
    w.streamBasis = some (event, seen) ∧
      command ∈ (event.definition w.kind).react event.type (seen.map Sighting.job)
  jobDecided : ∀ {command}, command ∈ w.jobStage.commands → ∃ event n owner,
    w.jobBasis = some (event, n) ∧ command ∈ event.resource.react event.type owner

theorem created_le_become (w : World) (k : Cluster) (deletion : String) (key : JobKey) :
    w.created key ≤ (w.become k deletion).created key := Nat.le_add_right _ _

/-- Events that are new carry the number of the job as it is now. -/
theorem mem_jobEvents_become {event : Event Job} {n : Nat}
    (member : (event, n) ∈ (w.become k deletion).jobEvents) : (event, n) ∈ w.jobEvents ∨
      ∃ key, n = (w.become k deletion).created key ∧
        Event.ofChange (Cluster.versionedJob · deletion) (Table.get? key w.cluster.jobs)
          (Table.get? key k.jobs) = some event := by
  rcases List.mem_append.1 member with old | new
  · exact .inl old
  · obtain ⟨⟨key, event'⟩, changed, same⟩ := List.mem_map.1 new
    obtain ⟨rfl, rfl⟩ := Prod.mk.inj same
    exact .inr ⟨key, rfl, Table.mem_changes.1 changed⟩

theorem Sound.become (sound : w.Sound) (placed : k.Placed) : (w.become k deletion).Sound where
  placed := placed
  balance key := by
    have counted := sound.balance key
    show w.created key + (!Table.contains key w.cluster.jobs && Table.contains key k.jobs).toNat
      = w.deleted key + (Table.contains key w.cluster.jobs && !Table.contains key k.jobs).toNat
        + (Table.contains key k.jobs).toNat
    rw [counted]
    generalize Table.contains key w.cluster.jobs = before
    generalize Table.contains key k.jobs = after
    cases before <;> cases after <;> rfl
  queued := fun {event n} member => by
    rcases mem_jobEvents_become member with old | ⟨key, rfl, changed⟩
    · exact Nat.le_trans (sound.queued old) (created_le_become w k deletion _)
    · have own : event.resource.key = key := by
        rcases Event.ofChange_resource changed with ⟨job, found, same⟩ | found
        · rw [same, Cluster.key_versionedJob]
          exact sound.placed found
        · exact placed found
      exact Nat.le_of_eq (congrArg _ own.symm)
  taken basis := Nat.le_trans (sound.taken basis) (created_le_become w k deletion _)
  seen basis := Nat.le_trans (sound.seen basis) (created_le_become w k deletion _)
  received := sound.received
  streamDecided := sound.streamDecided
  jobDecided := sound.jobDecided

theorem Initial.sound (initial : w.Initial) : w.Sound where
  placed found := initial.placed _ (Table.mem_of_get? found)
  balance key := by rw [initial.created, initial.deleted, Nat.zero_add]
  queued member := by
    rw [initial.noJobEvents] at member
    cases member
  taken basis := by
    rw [initial.jobBasis] at basis
    cases basis
  seen basis := by
    rw [initial.streamBasis] at basis
    cases basis
  received stage := by
    obtain ⟨ticket, idle⟩ := initial.jobIdle
    rw [idle] at stage
    cases stage
  streamDecided left := by
    obtain ⟨ticket, idle⟩ := initial.streamIdle
    rw [idle] at left
    cases left
  jobDecided left := by
    obtain ⟨ticket, idle⟩ := initial.jobIdle
    rw [idle] at left
    cases left

/-! ## Moves -/

theorem Sound.takeStreams (sound : w.Sound) (moved : w.step (.take .streams) = some v) :
    v.Sound := by
  simp only [step] at moved
  split at moved
  · obtain rfl := Option.some.inj moved
    exact { sound with streamDecided := fun left => by cases left }
  · cases moved

theorem Sound.takeJobs (sound : w.Sound) (moved : w.step (.take .jobs) = some v) : v.Sound := by
  simp only [step] at moved
  split at moved
  · rename_i ticket event n rest idle queue
    obtain rfl := Option.some.inj moved
    exact { sound with
      queued := fun member => sound.queued (by rw [queue]; exact List.mem_cons_of_mem _ member)
      taken := fun basis => by
        obtain ⟨rfl, rfl⟩ := Prod.mk.inj (Option.some.inj basis)
        exact sound.queued (by rw [queue]; exact List.mem_cons_self)
      received := fun stage => by
        cases stage
        exact ⟨n, rfl⟩
      jobDecided := fun left => by cases left }
  · cases moved

/-- The cluster after a reconciler went on. -/
theorem placed_of_advance {α : Type} {Decides : Event α → List Command → Prop} {k' : Cluster}
    {stage stage' : RunStage α} (placed : k.Placed)
    (advance : Run.Advance setting.handler Decides k k' stage stage') : k'.Placed := by
  rcases advance.jobs rfl with same | ⟨command, rest, -, effect⟩
  · intro key job found
    rw [same] at found
    exact placed found
  · exact effect.placed placed

theorem Sound.workStreams (sound : w.Sound) (moved : w.step (.work .streams setting) = some v) :
    v.Sound := by
  obtain ⟨stage, dedup, k, rfl, advance⟩ := step_work_streams moved
  refine Sound.become ?_ (placed_of_advance sound.placed advance)
  refine { sound with seen := ?_, streamDecided := ?_ }
  · intro event seen basis
    -- Either the job is seen just now, or the basis is the one of before.
    unfold nextBasis at basis
    split at basis
    · obtain ⟨rfl, found⟩ := Prod.mk.inj (Option.some.inj basis)
      obtain ⟨job, stored, rfl⟩ := Option.map_eq_some_iff.1 found
      exact Nat.le_of_eq (congrArg w.created (sound.placed stored).symm)
    · exact sound.seen basis
  · intro command left
    rcases advance.commands left with
      ⟨decided, before⟩ | ⟨ticket, event, commands, current, decision, new⟩
    · have kept : w.nextBasis = w.streamBasis := by
        unfold nextBasis
        split
        · exact absurd ‹_› (decided _ _)
        · rfl
      rw [kept]
      exact sound.streamDecided before
    · have basis : w.nextBasis = some (event, w.sight (event.definition w.kind).jobKey) := by
        unfold nextBasis
        rw [current]
      refine ⟨event, _, basis, ?_⟩
      obtain ⟨rfl, -⟩ := decision
      simpa [sight, Function.comp_def] using new

theorem Sound.workJobs (sound : w.Sound) (moved : w.step (.work .jobs setting) = some v) :
    v.Sound := by
  obtain ⟨stage, dedup, k, rfl, advance⟩ := step_work_jobs moved
  refine Sound.become ?_ (placed_of_advance sound.placed advance)
  refine { sound with
    received := fun {ticket event} current => absurd current (advance.ne_received ticket event)
    jobDecided := ?_ }
  intro command left
  rcases advance.commands left with ⟨-, before⟩ | ⟨ticket, event, commands, current, decision, new⟩
  · exact sound.jobDecided before
  · obtain ⟨owner, rfl⟩ := decision
    obtain ⟨n, basis⟩ := sound.received current
    exact ⟨event, n, owner, basis, new⟩

theorem Sound.listJob {key : JobKey} (sound : w.Sound) (moved : w.step (.listJob key) = some v) :
    v.Sound := by
  obtain ⟨seen, found, rfl⟩ := Option.map_eq_some_iff.1 moved
  obtain ⟨job, stored, rfl⟩ := Option.map_eq_some_iff.1 found
  refine { sound with queued := ?_ }
  intro event n member
  rcases List.mem_append.1 member with old | new
  · exact sound.queued old
  · obtain ⟨rfl, rfl⟩ := Prod.mk.inj (List.mem_singleton.1 new)
    exact Nat.le_of_eq (congrArg w.created (sound.placed stored).symm)

/-- Whatever move is made, the world stays sound. -/
theorem Sound.step {move : Move} (sound : w.Sound) (moved : w.step move = some v) : v.Sound := by
  cases move with
  | take actor =>
    cases actor with
    | streams => exact sound.takeStreams moved
    | jobs => exact sound.takeJobs moved
  | work actor setting =>
    cases actor with
    | streams => exact sound.workStreams moved
    | jobs => exact sound.workJobs moved
  | others k deletion =>
    simp only [World.step] at moved
    split at moved
    · rename_i placed
      obtain rfl := Option.some.inj moved
      exact sound.become fun found => placed _ (Table.mem_of_get? found)
    · cases moved
  | listDefinition key =>
    simp only [World.step] at moved
    split at moved
    · obtain ⟨r, -, rfl⟩ := Option.map_eq_some_iff.1 moved
      exact { sound with }
    · cases moved
  | listJob key => exact sound.listJob moved

theorem Sound.run {moves : List Move} (sound : w.Sound) (ran : w.run moves = some v) : v.Sound :=
  run_preserves (Q := fun _ => True) (fun _ sound moved => sound.step moved) (fun _ _ => trivial)
    sound ran

end World

end StreamOperator
