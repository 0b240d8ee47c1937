import StreamOperator.Proofs.Supervisor.Soundness

/-!
# Classes that are gone

A class id is absent when no handle stands under it and no pipeline of it runs. No step ends the
absence of an id but the one of its own attaching that starts a pipeline (`Absent.step`), and once a
supervisor has stopped all ids are absent for good (`Ended.step`).
-/

set_option autoImplicit false

namespace StreamOperator

variable {s t u : Supervisor} {id : String}

/-- The call has looked whether the supervisor is stopped, and a pipeline may follow. -/
def Call.Starts : Call → Prop
  | .attach _ .claiming | .attach _ (.awaiting _) | .attach _ .registering | .attach _ .spawning => True
  | _ => False

theorem Call.not_starts_of_isFresh {call : Call} (fresh : call.IsFresh) : ¬ call.Starts := by
  unfold Call.IsFresh at fresh
  split at fresh <;> simp_all [Call.Starts]

/-- The supervisor has no handle and no pipeline that it had not before. -/
structure Supervisor.Narrows (s t : Supervisor) : Prop where
  handles : ∀ id, Table.get? id s.handles = none → Table.get? id t.handles = none
  pipelines : ∀ {n q}, t.pipeline? n = some q →
    ∃ p, s.pipeline? n = some p ∧ q.streamClass = p.streamClass
  stopped : s.stopped = true → t.stopped = true

namespace Supervisor

theorem Narrows.of_eq (handles : t.handles = s.handles) (pipelines : t.pipelines = s.pipelines)
    (stopped : s.stopped = true → t.stopped = true) : s.Narrows t := by
  refine ⟨fun id absent => by rwa [handles], fun {n q} found => ⟨q, ?_, rfl⟩, stopped⟩
  rwa [Supervisor.pipeline?, pipelines] at found

theorem Narrows.refl (s : Supervisor) : s.Narrows s := .of_eq rfl rfl fun h => h

theorem Narrows.trans (first : s.Narrows t) (second : t.Narrows u) : s.Narrows u := by
  refine ⟨fun id absent => second.handles id (first.handles id absent), ?_,
    fun stopped => second.stopped (first.stopped stopped)⟩
  intro n r found
  obtain ⟨q, hq, same⟩ := second.pipelines found
  obtain ⟨p, hp, same'⟩ := first.pipelines hq
  exact ⟨p, hp, same.trans same'⟩

theorem Narrows.cancel (tidy : s.Tidy) (m : Nat) : s.Narrows (s.cancel m) := by
  refine ⟨fun id absent => by rwa [handles_cancel], ?_, by simp⟩
  intro n q found
  rw [pipeline?_cancel tidy] at found
  split at found
  · rename_i same
    subst same
    obtain ⟨p, hp, rfl⟩ := Option.map_eq_some_iff.1 found
    exact ⟨p, hp, rfl⟩
  · exact ⟨q, found, rfl⟩

theorem Narrows.revoke (tidy : s.Tidy) (id : String) (handle : Handle) :
    s.Narrows (s.revoke id handle) := by
  have fewer : ∀ id', Table.get? id' s.handles = none →
      Table.get? id' (Table.erase id s.handles) = none := by
    intro id' absent
    rw [Table.get?_erase]
    split
    · rfl
    · exact absent
  have taken : s.Narrows { s with handles := Table.erase id s.handles } :=
    ⟨fewer, fun found => ⟨_, found, rfl⟩, fun h => h⟩
  exact taken.trans (.cancel (tidy.withHandles _) handle.seq)

theorem Narrows.awaitFirst (tidy : s.Tidy) (handles : List Handle) :
    s.Narrows (s.awaitFirst handles).2 := by
  cases handles with
  | nil => exact .refl s
  | cons first _ => exact .cancel tidy first.seq

/-- A pipeline that runs after the supervisor was narrowed ran before. -/
theorem Narrows.runs (narrows : s.Narrows t) (runs : t.Runs id) : s.Runs id := by
  obtain ⟨n, q, found, rfl⟩ := runs
  obtain ⟨p, found', same⟩ := narrows.pipelines found
  exact ⟨n, p, found', by rw [same]⟩

/-! ## Steps of calls -/

variable {k k' : Cluster} {now : String}

/-- A step of a call narrows the supervisor, unless it is the one of an attaching that starts the
pipeline. -/
theorem CallStep.narrows_or {call next : Call} (tidy : s.Tidy)
    (moved : s.CallStep now k call next t k') :
    s.Narrows t ∨ ∃ c, call = .attach c .spawning ∧ next = .attach c (.announcing .reading) ∧
      t = s.install c := by
  cases moved with
  | @attach c _ _ _ _ moved =>
    cases moved with
    | claimed => exact .inl (.revoke tidy _ _)
    | registered => exact .inl (.of_eq rfl rfl fun h => h)
    | spawned => exact .inr ⟨c, rfl, rfl, rfl⟩
    | _ => exact .inl (.refl s)
  | detach moved =>
    cases moved with
    | claimed => exact .inl (.revoke tidy _ _)
    | released => exact .inl (.of_eq rfl rfl fun h => h)
    | unhandled | awaited => exact .inl (.refl s)
  | stop moved =>
    cases moved with
    | cancelled => exact .inl (.of_eq rfl rfl fun _ => rfl)
    | drained =>
      have drained : s.Narrows { s with handles := [] } :=
        ⟨fun _ _ => rfl, fun found => ⟨_, found, rfl⟩, fun h => h⟩
      exact .inl (drained.trans (.awaitFirst (tidy.withHandles []) _))
    | released => exact .inl (.of_eq rfl rfl fun h => h)
    | reported => exact .inl (.awaitFirst tidy _)
    | exhausted | awaited | reporting => exact .inl (.refl s)

/-- Only the stopping of a supervisor stops it. -/
theorem CallStep.stopped_eq {call next : Call} (moved : s.CallStep now k call next t k') :
    t.stopped = s.stopped ∨ call = .stop .cancelling := by
  cases moved with
  | @attach c _ _ _ _ moved =>
    cases moved with
    | claimed => exact .inl stopped_cancel
    | spawned =>
      unfold install
      split
      · exact .inl stopped_cancel
      · exact .inl rfl
    | _ => exact .inl rfl
  | detach moved =>
    cases moved with
    | claimed => exact .inl stopped_cancel
    | _ => exact .inl rfl
  | stop moved =>
    cases moved with
    | cancelled => exact .inr rfl
    | drained | reported =>
      left
      unfold awaitFirst
      split
      · rfl
      · exact stopped_cancel
    | _ => exact .inl rfl

/-- A supervisor that was told to stop lets no new attaching through. -/
theorem CallStep.not_starts {call next : Call} (moved : s.CallStep now k call next t k')
    (stopped : s.stopped = true) (before : ¬ call.Starts) : ¬ next.Starts := by
  cases moved with
  | attach moved =>
    cases moved with
    | admitted running =>
      rw [stopped] at running
      cases running
    | refused | refusing | failed | announcing | succeeded => exact id
    | _ => exact absurd trivial before
  | detach => exact id
  | stop => exact id

end Supervisor

namespace Session

variable {w v : Session}

/-- No handle stands under the id and no pipeline of it runs. -/
def Absent (w : Session) (id : String) : Prop :=
  Table.get? id w.supervisor.handles = none ∧ ¬ w.supervisor.Runs id

/-- The attaching of a class has started its pipeline. -/
def HasAttached (w : Session) (id : String) : Prop :=
  ∃ c status, w.call = some (.attach c (.announcing status)) ∧ c.id = id

/-- The attaching of a class is over, and it succeeded. -/
def HasSucceeded (w : Session) (id : String) : Prop :=
  ∃ c, w.call = some (.attach c (.done (.ok ()))) ∧ c.id = id

theorem Absent.narrows {k : Cluster} {call : Option Call} (absent : w.Absent id)
    (narrows : w.supervisor.Narrows t) : Absent ⟨t, call, k⟩ id :=
  ⟨narrows.handles id absent.1, fun runs => absent.2 (narrows.runs runs)⟩

/-- A pipeline's step brings no absent class back: its own handle stands, so it is of another one. -/
theorem Absent.stepPipeline {now : String} {clock m : Nat} {k : Cluster} (absent : w.Absent id)
    (sound : w.Sound) (taken : w.supervisor.stepPipeline now clock m w.cluster = some (t, k)) :
    Absent { w with supervisor := t, cluster := k } id := by
  rcases Supervisor.stepPipeline_cases sound.tidy taken with
    ⟨-, handles, -, origin⟩ | ⟨c, handle, -, -, -, own, handles, origin⟩
  · refine ⟨by simpa [handles] using absent.1, ?_⟩
    rintro ⟨n, q, found, rfl⟩
    obtain ⟨p, hp, same, -⟩ := origin found
    exact absent.2 ⟨n, p, hp, by rw [same]⟩
  · have other : id ≠ c.id := by
      rintro rfl
      rw [absent.1] at own
      cases own
    refine ⟨by simpa [handles, other] using absent.1, ?_⟩
    rintro ⟨n, q, found, same⟩
    rcases (origin found).2 with ⟨-, new⟩ | old
    · exact other (by rw [← same, new])
    · exact absent.2 ⟨n, q, old, same⟩

/-- Only the attaching of a class itself ends its absence. -/
theorem Absent.step (absent : w.Absent id) (sound : w.Sound) (step : Step w v) :
    v.Absent id ∨ v.HasAttached id := by
  cases step with
  | pipeline taken => exact .inl (absent.stepPipeline sound taken)
  | call current taken =>
    have moved := Supervisor.callStep_of_stepCall taken
    rcases moved.narrows_or sound.tidy with narrows | ⟨c, rfl, rfl, rfl⟩
    · exact .inl (absent.narrows narrows)
    · by_cases own : c.id = id
      · exact .inr ⟨c, .reading, rfl, own⟩
      · -- The pipeline of another class is started.
        have unhandled : Table.get? c.id w.supervisor.handles = none := sound.claimed current rfl
        have spawned : w.supervisor.install c = w.supervisor.spawn c false := by
          simp [Supervisor.install, unhandled]
        rw [spawned]
        refine .inl ⟨?_, ?_⟩
        · rw [Supervisor.handle?_spawn, if_neg fun same => own same.symm]
          exact absent.1
        · rintro ⟨n, q, found, same⟩
          rw [Supervisor.pipeline?_spawn] at found
          split at found
          · obtain rfl := Option.some.inj found
            exact own same
          · exact absent.2 ⟨n, q, found, same⟩
  | begin => exact .inl absent
  | cancel => exact .inl (absent.narrows (.of_eq rfl rfl fun _ => rfl))
  | elsewhere => exact .inl absent

/-- Along a run an absent class stays absent until an attaching of it has started its pipeline. -/
theorem Absent.reaches (absent : w.Absent id) (sound : w.Sound) (run : Reaches w v) :
    v.Absent id ∨ ∃ u, Reaches w u ∧ u.HasAttached id ∧ Reaches u v := by
  induction run with
  | refl => exact .inl absent
  | @tail u v before last ih =>
    rcases ih with absent' | ⟨x, first, attached, second⟩
    · rcases absent'.step (sound.reaches before) last with absent'' | attached
      · exact .inl absent''
      · exact .inr ⟨v, before.tail last, attached, .refl⟩
    · exact .inr ⟨x, first, attached, second.tail last⟩

/-- An attaching that has started its pipeline goes on and succeeds. -/
theorem HasAttached.step (attached : w.HasAttached id) (step : Step w v) :
    v.HasAttached id ∨ v.HasSucceeded id := by
  obtain ⟨c, status, current, own⟩ := attached
  cases step with
  | pipeline => exact .inl ⟨c, status, current, own⟩
  | call current' taken =>
    obtain rfl := Option.some.inj (current.symm.trans current')
    cases Supervisor.callStep_of_stepCall taken with
    | attach moved =>
      cases moved with
      | announcing => exact .inl ⟨c, _, rfl, own⟩
      | succeeded => exact .inr ⟨c, rfl, own⟩
  | begin idle =>
    have finished := idle _ current
    cases finished
  | cancel => exact .inl ⟨c, status, current, own⟩
  | elsewhere => exact .inl ⟨c, status, current, own⟩

/-! ## The end of a supervisor -/

/-- The supervisor was stopped, nothing is left of it, and no call is about to start a pipeline. -/
structure Ended (w : Session) : Prop where
  stopped : w.supervisor.stopped = true
  absent : ∀ id, w.Absent id
  idle : ∀ {call}, w.call = some call → ¬ call.Starts

theorem Ended.narrows {k : Cluster} {call : Option Call} (ended : w.Ended)
    (narrows : w.supervisor.Narrows t) (idle : ∀ {c}, call = some c → ¬ c.Starts) :
    Ended ⟨t, call, k⟩ :=
  ⟨narrows.stopped ended.stopped, fun id => (ended.absent id).narrows narrows, idle⟩

/-- Nothing brings an ended supervisor back. -/
theorem Ended.step (ended : w.Ended) (sound : w.Sound) (step : Step w v) : v.Ended := by
  cases step with
  | pipeline taken =>
    rcases Supervisor.stepPipeline_cases sound.tidy taken with
      ⟨-, -, stopped, -⟩ | ⟨-, -, -, running, -⟩
    · exact ⟨stopped.trans ended.stopped, fun id => (ended.absent id).stepPipeline sound taken,
        ended.idle⟩
    · rw [ended.stopped] at running
      cases running
  | call current taken =>
    have moved := Supervisor.callStep_of_stepCall taken
    rcases moved.narrows_or sound.tidy with narrows | ⟨c, rfl, -⟩
    · apply ended.narrows narrows
      intro c same
      obtain rfl := Option.some.inj same
      exact moved.not_starts ended.stopped (ended.idle current)
    · exact absurd trivial (ended.idle current)
  | begin idle fresh =>
    refine ⟨ended.stopped, ended.absent, ?_⟩
    intro call same
    obtain rfl := Option.some.inj same
    exact Call.not_starts_of_isFresh fresh
  | cancel => exact ⟨rfl, ended.absent, ended.idle⟩
  | elsewhere => exact ⟨ended.stopped, ended.absent, ended.idle⟩

theorem Ended.reaches (ended : w.Ended) (sound : w.Sound) (run : Reaches w v) : v.Ended := by
  induction run with
  | refl => exact ended
  | tail before last ih => exact ih.step (sound.reaches before) last

end Session

end StreamOperator
