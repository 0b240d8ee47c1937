import StreamOperator.Proofs.Supervisor.Absence

/-!
# One pipeline for each class

The main statement is `one_pipeline_for_each_class`. In every session that can be reached, at most one
pipeline of a class id is alive, namely the one that the handle of the id names; an attaching starts
its pipeline when no other one of its id is left; and what was detached or stopped stays gone until it
is attached again.
-/

set_option autoImplicit false

namespace StreamOperator

/-- A pipeline that has not ended and was not told to stop. -/
def Supervisor.Live (s : Supervisor) (p : Pipeline) : Prop :=
  s.pipeline? p.seq = some p ∧ s.isCancelled p = false

namespace Session

variable {w v : Session} {p q : Pipeline} {c : StreamClass} {call : Call} {id : String}

/-- The handle of a live pipeline stands. -/
theorem Sound.handle_of_live (sound : w.Sound) (live : w.supervisor.Live p) :
    (Table.get? p.streamClass.id w.supervisor.handles).map Handle.seq = some p.seq := by
  obtain ⟨found, active⟩ := live
  rcases sound.handled found with ⟨handle, own, seq⟩ | ⟨told, -⟩
  · rw [own, Option.map_some, seq]
  · rw [active] at told
    cases told

/-- The handle of an id names one pipeline only. -/
theorem Sound.live_unique (sound : w.Sound) (first : w.supervisor.Live p)
    (second : w.supervisor.Live q) (same : p.streamClass.id = q.streamClass.id) : p = q := by
  have own := sound.handle_of_live first
  rw [same, sound.handle_of_live second] at own
  have found := first.1
  rw [← Option.some.inj own, second.1] at found
  exact (Option.some.inj found).symm

/-- While a call holds an id and waits for nothing, the id is absent. -/
theorem Sound.absent_of_claims (sound : w.Sound) (current : w.call = some call)
    (claims : call.Claims id) (awaits : ∀ n, ¬ call.Awaits n) : w.Absent id :=
  ⟨sound.claimed current claims, sound.not_runs current claims awaits⟩

/-- The stopping of a supervisor leaves nothing of it. -/
theorem Sound.ended (sound : w.Sound) (current : w.call = some (.stop .done)) : w.Ended := by
  refine ⟨sound.stopping current trivial, ?_, ?_⟩
  · intro id
    exact sound.absent_of_claims current trivial fun _ h => h
  · intro call current'
    obtain rfl := Option.some.inj (current.symm.trans current')
    exact fun h => h

/-- A live pipeline is the one its handle names, and the only one of its class id; an attaching starts
its pipeline when none of its id is left, and then succeeds; what was detached does not run until an
attaching of it has started a pipeline; and nothing runs after a stop. -/
theorem one_pipeline_for_each_class (reachable : w.Reachable) :
    (∀ p, w.supervisor.Live p →
      (Table.get? p.streamClass.id w.supervisor.handles).map Handle.seq = some p.seq) ∧
    (∀ p q, w.supervisor.Live p → w.supervisor.Live q →
      p.streamClass.id = q.streamClass.id → p = q) ∧
    (∀ c, w.call = some (.attach c .spawning) → ¬ w.supervisor.Runs c.id) ∧
    (∀ id v, w.HasAttached id → Step w v → v.HasAttached id ∨ v.HasSucceeded id) ∧
    (∀ c v, w.call = some (.detach c .done) → Reaches w v →
      ¬ v.supervisor.Runs c.id ∨ ∃ u, Reaches w u ∧ u.HasAttached c.id ∧ Reaches u v) ∧
    (∀ id v, w.call = some (.stop .done) → Reaches w v → ¬ v.supervisor.Runs id) := by
  have sound := reachable.sound
  refine ⟨?_, ?_, ?_, ?_, ?_, ?_⟩
  · intro p live
    exact sound.handle_of_live live
  · intro p q first second same
    exact sound.live_unique first second same
  · intro c current
    exact sound.not_runs current rfl fun _ h => h
  · intro id v attached step
    exact attached.step step
  · intro c v current run
    have absent : w.Absent c.id := sound.absent_of_claims current rfl fun _ h => h
    rcases absent.reaches sound run with still | again
    · exact .inl still.2
    · exact .inr again
  · intro id v current run
    have ended := (sound.ended current).reaches sound run
    exact (ended.absent id).2

/-! ## A class that is attached -/

def sqlServer : StreamClass where
  metadata := { name := some "sql-server", space := some "streaming", generation := some 1 }
  spec := {
    apiGroupRef := "streaming.example.org"
    pluralName := "sql-server-streams"
    kindRef := "SqlServerStream" }
  status := none

def unused : Supervisor := .create 8 128 30000 16

/-- The supervisor that knows the class. -/
def informed : Supervisor :=
  { unused with registry := ⟨8, Dictionary.empty.insert sqlServer.spec.kindRef sqlServer⟩ }

/-- The attaching of the class at a stage. -/
def attaching (s : Supervisor) (stage : AttachStage) : Session :=
  ⟨s, some (.attach sqlServer stage), {}⟩

/-- The class is about to be attached, whatever the cluster is. -/
theorem spawning_reachable (k : Cluster) :
    (⟨informed, some (.attach sqlServer .spawning), k⟩ : Session).Reachable := by
  have idle : (⟨unused, none, k⟩ : Session).IsIdle := by
    intro call current
    cases current
  have begun : Step ⟨unused, none, k⟩ ⟨unused, some (.attach sqlServer .checking), k⟩ :=
    .begin idle trivial
  have checked : Step ⟨unused, some (.attach sqlServer .checking), k⟩
      ⟨unused, some (.attach sqlServer .claiming), k⟩ := @Step.call _ "" _ _ _ _ rfl rfl
  have claimed : Step ⟨unused, some (.attach sqlServer .claiming), k⟩
      ⟨unused, some (.attach sqlServer .registering), k⟩ := @Step.call _ "" _ _ _ _ rfl rfl
  have registered : Step ⟨unused, some (.attach sqlServer .registering), k⟩
      ⟨informed, some (.attach sqlServer .spawning), k⟩ := @Step.call _ "" _ _ _ _ rfl rfl
  have initial : Initial ⟨unused, none, k⟩ := ⟨rfl, 8, 128, 30000, 16, rfl⟩
  exact ⟨_, initial, (((Relation.ReflTransGen.single begun).tail checked).tail claimed).tail registered⟩

theorem attaching_reachable :
    (attaching (informed.spawn sqlServer false) (.announcing .reading)).Reachable := by
  have spawned : Step (attaching informed .spawning)
      (attaching (informed.spawn sqlServer false) (.announcing .reading)) :=
    @Step.call (attaching informed .spawning) "" _ _ _ _ rfl rfl
  exact (spawning_reachable {}).step spawned

/-- A session in which a class was attached: its pipeline is alive and has the handle. -/
theorem one_pipeline_for_attached_class :
    ∃ (w : Session) (p : Pipeline), w.Reachable ∧ w.supervisor.Live p ∧ p.seq = 0 ∧
      (Table.get? p.streamClass.id w.supervisor.handles).map Handle.seq = some 0 ∧
      ∀ q, w.supervisor.Live q → q.streamClass.id = p.streamClass.id → q = p := by
  have live : (informed.spawn sqlServer false).Live ⟨sqlServer, 0, false, .starting false⟩ :=
    ⟨rfl, rfl⟩
  obtain ⟨handled, unique, -⟩ := one_pipeline_for_each_class attaching_reachable
  refine ⟨_, _, attaching_reachable, live, rfl, handled _ live, ?_⟩
  intro q other same
  exact unique _ _ other live same

end Session

end StreamOperator
