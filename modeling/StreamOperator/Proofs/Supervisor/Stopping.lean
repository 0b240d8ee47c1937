import StreamOperator.Proofs.Supervisor.ClassWrites
import StreamOperator.Proofs.Supervisor.Registration

/-!
# Stopping

While a supervisor is stopped its pipelines go on: one that has failed may be about to write that, and
one that was to be started again may put a new handle where its own stood. What is kept all the same
goes by the handles on hand, those that stand and those that the call has taken (`Session.Hands`). A
class that had a handle is on hand until the registry has given its kind up (`Clears.step`). Its resource
is owed the last report until that is over, and only resources that are owed it have their phases
altered (`Settles.step`).
-/

set_option autoImplicit false

namespace StreamOperator.Session

/-- One step of a session whose call is under way. Whoever else changes the cluster does it in an
allowed way, and what a pipeline does to streams that are stream classes themselves counts as done by
them. -/
inductive Underway (others : Cluster → Cluster → Prop) (w : Session) : Session → Prop where
  | pipeline {now : String} {clock n : Nat} {p : Pipeline} {s : Supervisor} {k : Cluster}
      (found : w.supervisor.pipeline? n = some p)
      (governed : p.stage.report? = none → p.streamClass.GovernsClasses → others w.cluster k)
      (taken : w.supervisor.stepPipeline now clock n w.cluster = some (s, k)) :
      Underway others w { w with supervisor := s, cluster := k }
  | call {now : String} {call next : Call} {s : Supervisor} {k : Cluster}
      (current : w.call = some call)
      (taken : w.supervisor.stepCall now call w.cluster = some (next, s, k)) :
      Underway others w ⟨s, some next, k⟩
  | cancel : Underway others w { w with supervisor := w.supervisor.cancelAll }
  | elsewhere (k : Cluster) (allowed : others w.cluster k) : Underway others w { w with cluster := k }

/-- A handle of the class is on hand. -/
def OnHand (w : Session) (c : StreamClass) : Prop := ∃ handle, w.Hands handle ∧ handle.streamClass = c

/-- The class is still to be told that its supervisor was stopped, or is being told. -/
def Owes (w : Session) (ref : ClassRef) : Prop :=
  (∃ c, w.OnHand c ∧ c.reference = ref) ∨
    ∃ first rest write, w.call = some (.stop (.reporting first rest write)) ∧
      first.streamClass.reference = ref

variable {others : Cluster → Cluster → Prop} {w v : Session} {c : StreamClass} {ref : ClassRef}
  {stage : StopStage}

theorem Underway.step (underway : Underway others w v) : Step w v := by
  cases underway with
  | pipeline _ _ taken => exact .pipeline taken
  | call current taken => exact .call current taken
  | cancel => exact .cancel
  | elsewhere k => exact .elsewhere k

/-- The stopping waits, or it goes on by a step of its own. -/
theorem Underway.stopStep (underway : Underway others w v) (current : w.call = some (.stop stage)) :
    v.call = w.call ∨ ∃ now next s k, v = ⟨s, some (.stop next), k⟩ ∧
      w.supervisor.StopStep now w.cluster stage next s k := by
  cases underway with
  | pipeline | cancel | elsewhere => exact .inl rfl
  | call current' taken =>
    obtain rfl := Option.some.inj (current.symm.trans current')
    cases Supervisor.callStep_of_stepCall taken with
    | stop moved => exact .inr ⟨_, _, _, _, rfl, moved⟩

theorem Underway.stopping (underway : Underway others w v) (current : w.call = some (.stop stage)) :
    ∃ next, v.call = some (.stop next) := by
  rcases underway.stopStep current with same | ⟨-, next, -, -, rfl, -⟩
  · exact ⟨stage, same.trans current⟩
  · exact ⟨next, rfl⟩

/-! ## Handles on hand -/

/-- What a stopping waits for is the pipeline of a handle that it has taken. -/
theorem exists_taken_of_awaits {n : Nat} (awaited : (Call.stop stage).Awaits n) :
    ∃ handle ∈ (Call.stop stage).taken, handle.seq = n := by
  cases stage with
  | cancelling | draining | done => cases awaited
  | awaiting | reporting => exact awaited
  | releasing first rest =>
    obtain ⟨handle, member, seq⟩ := awaited
    exact ⟨handle, List.mem_cons_of_mem _ member, seq⟩

/-- Every pipeline has its handle on hand. -/
theorem Reachable.onHand_of_pipeline {n : Nat} {p : Pipeline} (reachable : w.Reachable)
    (current : w.call = some (.stop stage)) (found : w.supervisor.pipeline? n = some p) :
    w.OnHand p.streamClass := by
  have hands : ∃ handle, w.Hands handle ∧ handle.seq = n := by
    rcases reachable.sound.handled found with ⟨handle, own, seq⟩ | ⟨-, call, current', awaited⟩
    · exact ⟨handle, hands_of_get? own, seq⟩
    · obtain rfl := Option.some.inj (current.symm.trans current')
      obtain ⟨handle, member, seq⟩ := exists_taken_of_awaits awaited
      exact ⟨handle, .inr ⟨_, current, member⟩, seq⟩
  obtain ⟨handle, held, rfl⟩ := hands
  exact ⟨handle, held, ((reachable.matched.backed held).served found).symm⟩

/-- A restart puts a handle of the same class in the place of the one that stood. -/
theorem Matched.onHand_spawn {n : Nat} {p : Pipeline} {handle : Handle} {s : Supervisor} {k : Cluster}
    (matched : w.Matched) (found : w.supervisor.pipeline? n = some p)
    (own : Table.get? p.streamClass.id w.supervisor.handles = some handle) (seq : handle.seq = n)
    (handles : s.handles = (w.supervisor.spawn p.streamClass true).handles) (onHand : w.OnHand c) :
    OnHand { w with supervisor := s, cluster := k } c := by
  obtain ⟨held, ⟨id, member⟩ | taken, rfl⟩ := onHand
  · have standing := matched.get? member
    have written : Table.get? id s.handles = _ :=
      (congrArg (Table.get? id) handles).trans (Supervisor.handle?_spawn id true)
    by_cases same : id = p.streamClass.id
    · -- It is the handle of the pipeline that is replaced.
      rw [if_pos same] at written
      obtain rfl : held = handle := by
        rw [same, own] at standing
        exact (Option.some.inj standing).symm
      have served := (matched.backed_of_mem member).served (seq ▸ found)
      exact ⟨_, .inl ⟨id, Table.mem_of_get? written⟩, served⟩
    · rw [if_neg same, standing] at written
      exact ⟨held, .inl ⟨id, Table.mem_of_get? written⟩, rfl⟩
  · exact ⟨held, .inr taken, rfl⟩

theorem hands_iff {call : Call} {handle : Handle} (current : w.call = some call) : w.Hands handle ↔
    (∃ id, (id, handle) ∈ w.supervisor.handles) ∨ handle ∈ call.taken := by
  simp [Hands, current]

/-- A handle stays on hand while the stopping goes on, until the registry gives its class up. -/
theorem hands_of_stopStep {s t : Supervisor} {now : String} {k k' : Cluster} {next : StopStage}
    {handle : Handle} (moved : s.StopStep now k stage next t k')
    (hands : Hands ⟨s, some (.stop stage), k⟩ handle) : Hands ⟨t, some (.stop next), k'⟩ handle ∨
      ∃ rest, next = .reporting handle rest .reading ∧
        t.registry = s.registry.remove handle.streamClass := by
  rw [hands_iff rfl] at hands ⊢
  cases moved with
  | cancelled | exhausted | awaited | reporting => exact .inl hands
  | drained =>
    rw [Supervisor.taken_awaitFirst]
    rcases hands with ⟨id, member⟩ | member
    · exact .inl (.inr (List.mem_map.2 ⟨_, member, rfl⟩))
    · cases member
  | released =>
    rcases hands with standing | member
    · exact .inl (.inl standing)
    · rcases List.mem_cons.1 member with rfl | member
      · exact .inr ⟨_, rfl, rfl⟩
      · exact .inl (.inr member)
  | reported =>
    rw [Supervisor.taken_awaitFirst, Supervisor.handles_awaitFirst]
    exact .inl hands

/-- The class of a handle stays on hand until the registry gives it up. -/
theorem Underway.onHand (underway : Underway others w v) (reachable : w.Reachable)
    (current : w.call = some (.stop stage)) (onHand : w.OnHand c) : v.OnHand c ∨
      ∃ first rest, v.call = some (.stop (.reporting first rest .reading)) ∧ first.streamClass = c ∧
        v.supervisor.registry = w.supervisor.registry.remove c := by
  cases underway with
  | pipeline _ _ taken =>
    obtain ⟨p, stage, s', found, -, -, rfl, standing⟩ :=
      Supervisor.advance_of_stepPipeline reachable.sound.tidy taken
    rcases standing with rfl | ⟨-, -, rfl, handle, own, seq⟩
    · exact .inl onHand
    · exact .inl (reachable.matched.onHand_spawn found own seq rfl onHand)
  | call current' taken =>
    obtain ⟨supervisor, _, cluster⟩ := w
    obtain rfl : _ = some _ := current
    obtain rfl := Option.some.inj current'
    obtain ⟨handle, hands, rfl⟩ := onHand
    cases Supervisor.callStep_of_stepCall taken with
    | stop moved =>
      rcases hands_of_stopStep moved hands with still | ⟨rest, rfl, removed⟩
      · exact .inl ⟨handle, still, rfl⟩
      · exact .inr ⟨handle, rest, rfl, rfl, removed⟩
  | cancel | elsewhere => exact .inl onHand

/-! ## The registry -/

/-- The class is on hand, or its kind is not served any more. -/
def Clears (w : Session) (c : StreamClass) : Prop :=
  w.OnHand c ∨ w.supervisor.registry.get? c.spec.kindRef = none

theorem Clears.step (clears : w.Clears c) (reachable : w.Reachable)
    (current : w.call = some (.stop stage)) (underway : Underway others w v) : v.Clears c := by
  rcases clears with onHand | absent
  · rcases underway.onHand reachable current onHand with still | ⟨_, _, -, -, removed⟩
    · exact .inl still
    · -- Up to now the class was registered, so it is its own entry that is removed.
      obtain ⟨handle, hands, same⟩ := onHand
      have held : w.supervisor.registry.get? c.spec.kindRef = some c :=
        reachable.registered.holds (.handle hands same)
      right
      rw [removed, ClassRegistry.get?_remove, if_pos]
      simp [ClassRegistry.serves, held]
  · right
    obtain ⟨next, called⟩ := underway.stopping current
    cases underway.step.registering reachable.sound with
    | kept same => rw [same, absent]
    | stopped _ _ removed => rw [removed, ClassRegistry.get?_remove, absent, ite_self]
    | inserted called' | detached _ called' =>
      rw [called] at called'
      cases called'

/-! ## The last reports -/

/-- A step alters the phases of classes only that are owed the last report. -/
theorem Underway.altersPhases (underway : Underway others w v) (reachable : w.Reachable)
    (current : w.call = some (.stop stage))
    (spare : ∀ k k', others k k' → k.SparesPhases k') : w.cluster.AltersPhases w.Owes v.cluster := by
  cases underway with
  | pipeline found governed taken =>
    obtain ⟨p, stage, s', found', -, advanced, -, -⟩ :=
      Supervisor.advance_of_stepPipeline reachable.sound.tidy taken
    obtain rfl := Option.some.inj (found.symm.trans found')
    -- Whatever the pipeline reports late, its handle is on hand: the last report is yet to come.
    have alters := reachable.altersPhases_of_advance found
      (fun silent governs => spare _ _ (governed silent governs)) advanced
    refine alters.mono ?_
    rintro _ rfl
    exact .inl ⟨_, reachable.onHand_of_pipeline current found, rfl⟩
  | call current' taken =>
    obtain rfl := Option.some.inj (current.symm.trans current')
    cases Supervisor.callStep_of_stepCall taken with
    | stop moved =>
      cases moved with
      | reporting written | reported written =>
        refine (StatusWrite.altersPhases_of_step rfl written).mono ?_
        rintro _ rfl
        exact .inr ⟨_, _, _, current, rfl⟩
      | _ => exact .refl _
  | cancel => exact .refl _
  | elsewhere k allowed => exact (spare _ _ allowed).alters

/-- What is about to be written while the supervisor stops is that it was stopped. -/
def TellsStopped (w : Session) : Prop := ∀ first rest write,
  w.call = some (.stop (.reporting first rest write)) → write.Tells .stopped

/-- A report of the stopping that is over has left its phase. -/
theorem Underway.owes (underway : Underway others w v) (reachable : w.Reachable)
    (current : w.call = some (.stop stage)) (obliges : w.cluster.Obliges) (tells : w.TellsStopped)
    (owes : w.Owes ref) : v.Owes ref ∨ v.cluster.Shows ref .stopped := by
  rcases owes with ⟨c, onHand, rfl⟩ | ⟨first, rest, write, reporting, rfl⟩
  · rcases underway.onHand reachable current onHand with still | ⟨first, rest, called, rfl, -⟩
    · exact .inl (.inl ⟨c, still, rfl⟩)
    · exact .inl (.inr ⟨first, rest, _, called, rfl⟩)
  · rcases underway.stopStep reporting with same | ⟨now, next, s, k, rfl, moved⟩
    · exact .inl (.inr ⟨first, rest, write, same.trans reporting, rfl⟩)
    · cases moved with
      | reporting => exact .inl (.inr ⟨first, rest, _, rfl, rfl⟩)
      | reported ended =>
        exact .inr (StatusWrite.shows_of_ended rfl obliges (tells _ _ _ reporting) ended)

theorem awaitFirst_ne_reporting {s : Supervisor} {first : Handle} {rest : List Handle}
    {write : StatusWrite} (handles : List Handle) :
    (s.awaitFirst handles).1 ≠ .reporting first rest write := by
  cases handles <;> nofun

theorem TellsStopped.step (tells : w.TellsStopped) (obliges : w.cluster.Obliges)
    (current : w.call = some (.stop stage)) (underway : Underway others w v) : v.TellsStopped := by
  intro first rest write reporting
  rcases underway.stopStep current with same | ⟨now, next, s, k, rfl, moved⟩
  · exact tells first rest write (same.symm.trans reporting)
  · have stage_eq : next = .reporting first rest write := by simpa using reporting
    cases moved with
    | drained | reported => exact absurd stage_eq (awaitFirst_ne_reporting _)
    | released =>
      cases stage_eq
      trivial
    | reporting goes =>
      cases stage_eq
      exact (StatusWrite.tells_of_readable rfl obliges.readable goes).2
    | _ => cases stage_eq

/-- The resource of a class is owed the last report, or the report has left its phase. -/
structure Settles (w : Session) (ref : ClassRef) : Prop where
  obliges : w.cluster.Obliges
  tells : w.TellsStopped
  told : w.Owes ref ∨ w.cluster.Shows ref .stopped

theorem Settles.step (settles : w.Settles ref) (reachable : w.Reachable)
    (current : w.call = some (.stop stage)) (spare : ∀ k k', others k k' → k.SparesPhases k')
    (underway : Underway others w v) : v.Settles ref := by
  have alters := underway.altersPhases reachable current spare
  refine ⟨alters.obliges settles.obliges, settles.tells.step settles.obliges current underway, ?_⟩
  by_cases owes : w.Owes ref
  · exact underway.owes reachable current settles.obliges settles.tells owes
  · rcases settles.told with owes' | shown
    · exact absurd owes' owes
    · exact .inr (alters.shows owes shown)

/-! ## Runs -/

theorem reaches_of_underway (run : Relation.ReflTransGen (Underway others) w v) : Reaches w v :=
  Relation.ReflTransGen.mono (fun _ _ => Underway.step) _ _ run

/-- What every step of a stopping keeps is kept by the whole of it. -/
theorem invariant_of_underway {P : Session → Prop} (reachable : w.Reachable)
    (current : w.call = some (.stop stage)) (run : Relation.ReflTransGen (Underway others) w v)
    (kept : ∀ {w v stage}, w.Reachable → w.call = some (.stop stage) → Underway others w v → P w → P v)
    (first : P w) : P v := by
  suffices P v ∧ ∃ next, v.call = some (.stop next) from this.1
  induction run with
  | refl => exact ⟨first, stage, current⟩
  | tail before last ih =>
    obtain ⟨held, next, current'⟩ := ih
    have reachable' := reachable.reaches (reaches_of_underway before)
    exact ⟨kept reachable' current' last held, last.stopping current'⟩

theorem Clears.run (clears : w.Clears c) (reachable : w.Reachable)
    (current : w.call = some (.stop stage)) (run : Relation.ReflTransGen (Underway others) w v) :
    v.Clears c :=
  invariant_of_underway (P := fun w => w.Clears c) reachable current run
    (fun reachable current underway clears => clears.step reachable current underway) clears

theorem Settles.run (settles : w.Settles ref) (reachable : w.Reachable)
    (current : w.call = some (.stop stage)) (spare : ∀ k k', others k k' → k.SparesPhases k')
    (run : Relation.ReflTransGen (Underway others) w v) : v.Settles ref :=
  invariant_of_underway (P := fun w => w.Settles ref) reachable current run
    (fun reachable current underway settles => settles.step reachable current spare underway) settles

end StreamOperator.Session
