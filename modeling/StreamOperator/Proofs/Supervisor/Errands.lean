import StreamOperator.Proofs.Supervisor.RivalClass
import StreamOperator.Proofs.Supervisor.ClassLife
import StreamOperator.Proofs.Supervisor.Progress
import StreamOperator.Proofs.Supervisor.Roster

/-!
# Errands at a supervisor

An errand is run by the steps of its call. Between them the pipelines take theirs, and others write to
the cluster (`Session.Pursues`). At every stage the call comes to the same (`Call.prospect?`): none of
its own steps changes what it comes to, but for the report that is still to be written, and all other
steps leave the roster alone. So an errand that is over has come to what it was to come to when it was
begun (`Performs.outcome`).
-/

set_option autoImplicit false

namespace StreamOperator

namespace Supervisor

/-- The classes that have handles, and the registry. -/
def roster (s : Supervisor) : Roster := ⟨s.class?, s.registry⟩

@[simp] theorem classes_roster (s : Supervisor) : s.roster.classes = s.class? := rfl

@[simp] theorem registry_roster (s : Supervisor) : s.roster.registry = s.registry := rfl

variable {s : Supervisor} {c : StreamClass} {id : String} {handle : Handle}

theorem roster_revoke : (s.revoke id handle).roster = s.roster.assign id none := by
  refine Roster.ext (funext fun other => ?_) registry_revoke
  rw [Roster.classes_assign]
  exact class?_revoke other

theorem roster_spawn (restarted : Bool) :
    (s.spawn c restarted).roster = s.roster.assign c.id (some c) := by
  refine Roster.ext (funext fun id => ?_) rfl
  rw [Roster.classes_assign]
  exact class?_spawn restarted id

end Supervisor

/-! ## What a call comes to -/

/-- What a call comes to from the stage where it stands. A stopping comes to nothing of the kind, and
nobody is let in to a supervisor that is stopped. -/
def Call.prospect? (stopped : Bool) (r : Roster) : Call → Option Prospect
  | attach c .checking => some ((Errand.attach c).prospect stopped r)
  | attach c .claiming => if stopped then none else some (r.attach c)
  | attach c (.awaiting _) | attach c .registering => some (r.register c)
  | attach _ (.refusing e w) => some ⟨.error e, r, some (.failed e, w)⟩
  | attach c .spawning => some ⟨.ok (), r.assign c.id (some c), some (.attached, .reading)⟩
  | attach _ (.announcing w) => some ⟨.ok (), r, some (.attached, w)⟩
  | attach _ (.done result) => some ⟨result, r, none⟩
  | detach c .claiming => some (r.detach c)
  | detach _ (.awaiting handle) | detach _ (.releasing handle) =>
    some ⟨.ok (), { r with registry := r.registry.remove handle.streamClass }, none⟩
  | detach _ .done => some ⟨.ok (), r, none⟩
  | stop _ => none

theorem Errand.prospect_call (e : Errand) (stopped : Bool) (r : Roster) :
    e.call.prospect? stopped r = some (e.prospect stopped r) := by
  cases e <;> rfl

theorem Errand.call_isFresh (e : Errand) : e.call.IsFresh := by
  cases e <;> trivial

theorem Call.running_of_claiming {c : StreamClass} {stopped : Bool} {r : Roster} {p : Prospect}
    (foreseen : (Call.attach c .claiming).prospect? stopped r = some p) :
    stopped = false ∧ r.attach c = p := by
  cases stopped with
  | true => cases foreseen
  | false => exact ⟨rfl, Option.some.inj foreseen⟩

/-- A call that is over has come to its result. -/
theorem Call.prospect_of_result {call : Call} {stopped : Bool} {r : Roster} {p : Prospect}
    {result : Except Failure Unit} (finished : call.result? = some result)
    (foreseen : call.prospect? stopped r = some p) : p = ⟨result, r, none⟩ := by
  unfold Call.result? at finished
  split at finished <;> cases finished <;> cases foreseen <;> rfl

namespace Session

variable {w v u : Session} {others : Session → Session → Prop} {now : String} {e : Errand}
  {c d : StreamClass} {p q : Prospect} {result : Except Failure Unit}

/-- The call under way is about a class and comes to a prospect. -/
def Foresees (w : Session) (c : StreamClass) (p : Prospect) : Prop :=
  ∃ call, w.call = some call ∧ call.About (· = c) ∧
    call.prospect? w.supervisor.stopped w.supervisor.roster = some p

/-- One step of writing the report that is due; or no report is written. -/
inductive Nears (now : String) (c : StreamClass) (k k' : Cluster) (p q : Prospect) : Prop where
  | silent (same : q = p) (unwritten : k' = k)
  | written {h : Handler Cluster} {report : ClassReport} {write : StatusWrite}
      {next : Option StatusWrite} (inMemory : h.api = Cluster.api) (present : h.now = now)
      (due : p.due = some (report, write)) (taken : write.step h c report k = (next, k'))
      (same : q = { p with due := next.map fun write => (report, write) })

theorem Nears.settled {k k' : Cluster} (nears : Nears now c k k' p q) :
    q.result = p.result ∧ q.roster = p.roster := by
  cases nears with
  | silent same | written _ _ _ _ same => exact same ▸ ⟨rfl, rfl⟩

/-- What a step of the call under way does. -/
structure Advances (now : String) (w v : Session) (c : StreamClass) (p q : Prospect) : Prop where
  foresees : v.Foresees c q
  stopped : v.supervisor.stopped = w.supervisor.stopped
  nears : Nears now c w.cluster v.cluster p q
  registry : v.supervisor.registry = w.supervisor.registry ∨
    v.supervisor.registry = p.roster.registry
  keeps : ∀ {d : StreamClass}, c.id ≠ d.id →
    v.supervisor.registry.get? d.spec.kindRef = w.supervisor.registry.get? d.spec.kindRef →
    w.supervisor.Keeps v.supervisor d

/-! ## Steps of the calls -/

variable {t : Supervisor} {k : Cluster} {call next : Call} {handle : Handle}

/-- The step leaves the supervisor as it is. -/
theorem Advances.of_same (about : next.About (· = c))
    (foreseen : next.prospect? w.supervisor.stopped w.supervisor.roster = some q)
    (nears : Nears now c w.cluster k p q) : Advances now w ⟨w.supervisor, some next, k⟩ c p q where
  foresees := ⟨next, rfl, about, foreseen⟩
  stopped := rfl
  nears := nears
  registry := .inl rfl
  keeps _ entry := ⟨rfl, fun _ _ => rfl, entry⟩

/-- The step changes the registry, to what it is to be in the end. -/
theorem Advances.of_registry {registry : ClassRegistry} (final : registry = p.roster.registry)
    (about : next.About (· = c)) (foreseen : next.prospect? w.supervisor.stopped
      { w.supervisor.roster with registry := registry } = some p) :
    Advances now w ⟨{ w.supervisor with registry := registry }, some next, w.cluster⟩ c p p where
  foresees := ⟨next, rfl, about, foreseen⟩
  stopped := rfl
  nears := .silent rfl rfl
  registry := .inr final
  keeps _ entry := ⟨rfl, fun _ _ => rfl, entry⟩

/-- The handle under the id of the class is taken. -/
theorem Advances.of_revoke (reachable : w.Reachable) (about : next.About (· = c))
    (found : Table.get? c.id w.supervisor.handles = some handle)
    (foreseen : next.prospect? w.supervisor.stopped (w.supervisor.roster.assign c.id none) = some p) :
    Advances now w ⟨w.supervisor.revoke c.id handle, some next, w.cluster⟩ c p p where
  foresees := by
    refine ⟨next, rfl, about, ?_⟩
    rw [Supervisor.stopped_revoke, Supervisor.roster_revoke]
    exact foreseen
  stopped := Supervisor.stopped_revoke
  nears := .silent rfl rfl
  registry := .inl Supervisor.registry_revoke
  keeps other _ := reachable.matched.keeps_revoke reachable.sound.tidy other found

/-- The pipeline of the class is started. -/
theorem Advances.of_spawn (reachable : w.Reachable) (about : next.About (· = c))
    (foreseen : next.prospect? w.supervisor.stopped
      (w.supervisor.roster.assign c.id (some c)) = some p) :
    Advances now w ⟨w.supervisor.spawn c false, some next, w.cluster⟩ c p p where
  foresees := by
    refine ⟨next, rfl, about, ?_⟩
    rw [Supervisor.roster_spawn]
    exact foreseen
  stopped := rfl
  nears := .silent rfl rfl
  registry := .inl rfl
  keeps other _ := reachable.matched.keeps_spawn other false

/-- The class is current if its handle is for the same generation, whatever the pipeline does: while the
supervisor is not stopped no pipeline of a handle has ended. -/
theorem Reachable.isCurrent_iff (reachable : w.Reachable) (running : w.supervisor.stopped = false)
    (found : Table.get? c.id w.supervisor.handles = some handle) :
    w.supervisor.roster.IsCurrent c ↔
      handle.generation = c.metadata.generation ∧ w.supervisor.hasFinished handle.seq = false := by
  have member := Table.mem_of_get? found
  obtain ⟨p, stood, -⟩ := reachable.matched.staffed running _ member
  have unfinished : w.supervisor.hasFinished handle.seq = false := by
    simp [Supervisor.hasFinished, stood]
  have generation : handle.generation = _ := reachable.matched.generation _ member
  rw [generation]
  simp [Roster.IsCurrent, Supervisor.class?, found, unfinished]

theorem Advances.attachStep {stage next : AttachStage} (reachable : w.Reachable)
    (current : w.call = some (.attach c stage))
    (foreseen : (Call.attach c stage).prospect? w.supervisor.stopped w.supervisor.roster = some p)
    (moved : w.supervisor.AttachStep now c w.cluster stage next t k) :
    ∃ q, Advances now w ⟨t, some (.attach c next), k⟩ c p q := by
  cases moved with
  | refused stopped =>
    simp only [Call.prospect?, Errand.prospect, stopped, if_true] at foreseen
    cases foreseen
    exact ⟨_, .of_same rfl rfl (.silent rfl rfl)⟩
  | admitted running =>
    refine ⟨p, .of_same rfl ?_ (.silent rfl rfl)⟩
    simp only [Call.prospect?, Errand.prospect, running, Bool.false_eq_true, if_false] at foreseen ⊢
    exact foreseen
  | unhandled free =>
    obtain ⟨-, rfl⟩ := Call.running_of_claiming foreseen
    have unattached : w.supervisor.class? c.id = none := Supervisor.class?_eq_none_iff.2 free
    refine ⟨_, .of_same rfl ?_ (.silent rfl rfl)⟩
    rw [Roster.attach_of_free unattached]
    rfl
  -- What is foreseen goes by the roster, the claim also by the pipeline of the handle.
  | current found same unfinished =>
    obtain ⟨running, rfl⟩ := Call.running_of_claiming foreseen
    have settled := (reachable.isCurrent_iff running found).2 ⟨same, unfinished⟩
    refine ⟨_, .of_same rfl ?_ (.silent rfl rfl)⟩
    rw [Roster.attach, if_pos settled]
    rfl
  | claimed found outdated =>
    obtain ⟨running, rfl⟩ := Call.running_of_claiming foreseen
    have unsettled := mt (reachable.isCurrent_iff running found).1 outdated
    refine ⟨_, .of_revoke reachable rfl found ?_⟩
    rw [Roster.attach, if_neg unsettled]
    rfl
  | awaited => exact ⟨p, .of_same rfl foreseen (.silent rfl rfl)⟩
  | @registered registry inserted =>
    obtain rfl : w.supervisor.roster.register c = p := Option.some.inj foreseen
    have accepted : w.supervisor.roster.register c = ⟨.ok (),
        { w.supervisor.roster with registry := registry }.assign c.id (some c),
        some (.attached, .reading)⟩ := by
      rw [Roster.register, Supervisor.registry_roster, inserted]
    rw [accepted]
    exact ⟨_, .of_registry rfl rfl rfl⟩
  | rejected full =>
    obtain rfl : w.supervisor.roster.register c = p := Option.some.inj foreseen
    refine ⟨_, .of_same rfl ?_ (.silent rfl rfl)⟩
    rw [Roster.register, Supervisor.registry_roster, full]
    rfl
  | refusing goes | failed goes | announcing goes | succeeded goes =>
    cases foreseen
    exact ⟨_, .of_same rfl rfl (.written rfl rfl rfl goes rfl)⟩
  | spawned =>
    rw [Supervisor.install_of_unhandled (reachable.sound.claimed current rfl)]
    cases foreseen
    exact ⟨_, .of_spawn reachable rfl rfl⟩

theorem Advances.detachStep {stage next : DetachStage} (reachable : w.Reachable)
    (foreseen : (Call.detach c stage).prospect? w.supervisor.stopped w.supervisor.roster = some p)
    (moved : w.supervisor.DetachStep c w.cluster stage next t k) :
    ∃ q, Advances now w ⟨t, some (.detach c next), k⟩ c p q := by
  cases moved with
  | unhandled free =>
    obtain rfl : w.supervisor.roster.detach c = p := Option.some.inj foreseen
    have unattached : w.supervisor.class? c.id = none := Supervisor.class?_eq_none_iff.2 free
    refine ⟨_, .of_same rfl ?_ (.silent rfl rfl)⟩
    rw [Roster.detach, Supervisor.classes_roster, unattached]
    rfl
  | @claimed handle found =>
    obtain rfl : w.supervisor.roster.detach c = p := Option.some.inj foreseen
    refine ⟨_, .of_revoke reachable rfl found ?_⟩
    rw [Roster.detach, Supervisor.classes_roster, Supervisor.class?_of_get? found]
    rfl
  | awaited => exact ⟨p, .of_same rfl foreseen (.silent rfl rfl)⟩
  | released =>
    cases foreseen
    exact ⟨_, .of_registry rfl rfl rfl⟩

/-! ## Runs -/

/-- A step that the call under way does not take. -/
inductive Aside : Session → Session → Prop where
  | pipeline {w : Session} {now : String} {clock seq : Nat} {s : Supervisor} {k : Cluster}
      (taken : w.supervisor.stepPipeline now clock seq w.cluster = some (s, k)) :
      Aside w { w with supervisor := s, cluster := k }
  | elsewhere {w : Session} (k : Cluster) : Aside w { w with cluster := k }

/-- A step of the call under way, at a time, or an allowed one of the others. -/
inductive Amid (others : Session → Session → Prop) (now : String) : Session → Session → Prop where
  | own {w v : Session} (step : OwnStep now w v) : Amid others now w v
  | aside {w v : Session} (aside : Aside w v) (allowed : others w v) : Amid others now w v

/-- An errand was begun and is perhaps not over yet. -/
def Pursues (w : Session) (others : Session → Session → Prop) (now : String) (e : Errand)
    (v : Session) : Prop :=
  Relation.ReflTransGen (Amid others now) { w with call := some e.call } v

/-- An errand was begun and is over. -/
def Performs (w : Session) (others : Session → Session → Prop) (now : String) (e : Errand)
    (result : Except Failure Unit) (v : Session) : Prop :=
  w.Pursues others now e v ∧ ∃ call, v.call = some call ∧ call.result? = some result

theorem Aside.step (aside : Aside w v) : Step w v := by
  cases aside with
  | pipeline taken => exact .pipeline taken
  | elsewhere k => exact .elsewhere k

theorem OwnStep.step (own : OwnStep now w v) : Step w v := by
  cases own with
  | taken current taken => exact .call current taken

theorem Amid.step (amid : Amid others now w v) : Step w v := by
  cases amid with
  | own own => exact own.step
  | aside aside => exact aside.step

theorem Reachable.amid (reachable : w.Reachable) (run : Relation.ReflTransGen (Amid others now) w v) :
    v.Reachable :=
  reachable.reaches (Relation.ReflTransGen.mono (fun _ _ => Amid.step) _ _ run)

theorem Pursues.reachable (pursues : w.Pursues others now e v) (reachable : w.Reachable)
    (idle : w.IsIdle) : v.Reachable :=
  (reachable.step (.begin idle e.call_isFresh)).amid pursues

theorem Performs.reachable (performs : w.Performs others now e result v) (reachable : w.Reachable)
    (idle : w.IsIdle) : v.Reachable :=
  performs.1.reachable reachable idle

theorem Performs.idle (performs : w.Performs others now e result v) : v.IsIdle := by
  intro call current
  obtain ⟨-, ended, current', finished⟩ := performs
  obtain rfl := Option.some.inj (current'.symm.trans current)
  rw [finished]
  rfl

/-- A step of the others leaves the roster alone. -/
theorem Aside.roster_eq (aside : Aside w v) (reachable : w.Reachable) :
    v.call = w.call ∧ v.supervisor.stopped = w.supervisor.stopped ∧
      v.supervisor.roster = w.supervisor.roster := by
  cases aside with
  | elsewhere => exact ⟨rfl, rfl, rfl⟩
  | pipeline taken =>
    have tidy := reachable.sound.tidy
    refine ⟨rfl, Supervisor.stopped_of_stepPipeline tidy taken, Roster.ext (funext fun id => ?_) ?_⟩
    · exact reachable.matched.class?_of_stepPipeline tidy taken id
    · exact Supervisor.registry_of_stepPipeline tidy taken

theorem Aside.foresees (aside : Aside w v) (reachable : w.Reachable) (foresees : w.Foresees c p) :
    v.Foresees c p := by
  obtain ⟨call, stopped, roster⟩ := aside.roster_eq reachable
  unfold Foresees
  rw [call, stopped, roster]
  exact foresees

theorem Foresees.advances (foresees : w.Foresees c p) (reachable : w.Reachable)
    (own : OwnStep now w v) : ∃ q, Advances now w v c p q := by
  obtain ⟨call, current, about, foreseen⟩ := foresees
  cases own with
  | taken current' taken =>
    obtain rfl := Option.some.inj (current.symm.trans current')
    cases Supervisor.callStep_of_stepCall taken with
    | attach moved =>
      obtain rfl : _ = c := about
      exact Advances.attachStep reachable current foreseen moved
    | detach moved =>
      obtain rfl : _ = c := about
      exact Advances.detachStep reachable foreseen moved
    | stop moved => cases foreseen

/-- What is kept by every step of the errand's call and by the allowed steps of the others is kept by
the errand. -/
theorem Pursues.induction {P : Session → Prospect → Prop} (pursues : w.Pursues others now e v)
    (reachable : w.Reachable) (idle : w.IsIdle)
    (first : P { w with call := some e.call }
      (e.prospect w.supervisor.stopped w.supervisor.roster))
    (own : ∀ {x y p q}, Advances now x y e.subject p q → P x p → P y q)
    (aside : ∀ {x y p}, x.Reachable → Aside x y → others x y → P x p → P y p) :
    ∃ p, v.Foresees e.subject p ∧ P v p := by
  have begun : Foresees { w with call := some e.call } e.subject
      (e.prospect w.supervisor.stopped w.supervisor.roster) :=
    ⟨_, rfl, by cases e <;> rfl, e.prospect_call _ _⟩
  induction pursues with
  | refl => exact ⟨_, begun, first⟩
  | @tail x y before last ih =>
    obtain ⟨p, foresees, held⟩ := ih
    have reachable' : x.Reachable := Pursues.reachable before reachable idle
    cases last with
    | own step =>
      obtain ⟨q, advances⟩ := foresees.advances reachable' step
      exact ⟨q, advances.foresees, own advances held⟩
    | aside apart allowed =>
      exact ⟨p, apart.foresees reachable' foresees, aside reachable' apart allowed held⟩

/-- An errand that is over has come to what it was to come to. -/
theorem Performs.outcome (performs : w.Performs others now e result v) (reachable : w.Reachable)
    (idle : w.IsIdle) : v.supervisor.stopped = w.supervisor.stopped ∧
      result = (e.prospect w.supervisor.stopped w.supervisor.roster).result ∧
      v.supervisor.roster = (e.prospect w.supervisor.stopped w.supervisor.roster).roster := by
  obtain ⟨pursues, call, current, finished⟩ := performs
  have kept := pursues.induction (P := fun x p => x.supervisor.stopped = w.supervisor.stopped ∧
    p.result = (e.prospect w.supervisor.stopped w.supervisor.roster).result ∧
    p.roster = (e.prospect w.supervisor.stopped w.supervisor.roster).roster) reachable idle
    ⟨rfl, rfl, rfl⟩ ?_ ?_
  · obtain ⟨p, ⟨call', current', -, foreseen⟩, stopped, same, roster⟩ := kept
    obtain rfl := Option.some.inj (current.symm.trans current')
    obtain rfl := Call.prospect_of_result finished foreseen
    exact ⟨stopped, same, roster⟩
  · rintro x y p q advances ⟨stopped, same, roster⟩
    obtain ⟨result_eq, roster_eq⟩ := advances.nears.settled
    exact ⟨advances.stopped.trans stopped, result_eq.trans same, roster_eq.trans roster⟩
  · rintro x y p reachable' aside - ⟨stopped, kept⟩
    exact ⟨(aside.roster_eq reachable').2.1.trans stopped, kept⟩

/-! ## Errands come to an end -/

/-- The others allow the pipelines their steps. -/
def PermitsPipelines (others : Session → Session → Prop) : Prop :=
  ∀ {x : Session} {now : String} {clock seq : Nat} {s : Supervisor} {k : Cluster},
    x.supervisor.stepPipeline now clock seq x.cluster = some (s, k) →
      others x { x with supervisor := s, cluster := k }

variable {s t : Supervisor} {k k' : Cluster} {call : Option Call} {n : Nat}

/-- The call under way can end. -/
def CanFinish (others : Session → Session → Prop) (now : String) (w : Session) : Prop :=
  ∃ result v, Relation.ReflTransGen (Amid others now) w v ∧
    ∃ call, v.call = some call ∧ call.result? = some result

theorem CanFinish.before (canFinish : CanFinish others now v)
    (run : Relation.ReflTransGen (Amid others now) w v) : CanFinish others now w := by
  obtain ⟨result, u, rest, finished⟩ := canFinish
  exact ⟨result, u, run.trans rest, finished⟩

theorem Goes.amid (goes : Goes now w v) : Relation.ReflTransGen (Amid others now) w v :=
  Relation.ReflTransGen.mono (fun _ _ => Amid.own) _ _ goes

theorem amid_of_drives (permits : PermitsPipelines others) (drives : s.Drives n k t k') :
    Relation.ReflTransGen (Amid others now) ⟨s, call, k⟩ ⟨t, call, k'⟩ := by
  induction drives with
  | refl => exact .refl
  | head taken _ ih => exact .head (.aside (.pipeline taken) (permits taken)) ih

theorem canFinish_of_result {result : Except Failure Unit} {last : Call}
    (finished : last.result? = some result) : CanFinish others now ⟨s, some last, k⟩ :=
  ⟨result, _, .refl, last, rfl, finished⟩

theorem canFinish_of_registering (free : Table.get? c.id s.handles = none) :
    CanFinish others now ⟨s, some (.attach c .registering), k⟩ := by
  cases taken : s.registry.insert c with
  | ok registry =>
    obtain ⟨k', goes⟩ := exists_installed free taken
    exact (canFinish_of_result rfl).before (Goes.amid goes)
  | error e =>
    obtain ⟨k', goes⟩ := exists_refused taken
    exact (canFinish_of_result rfl).before (Goes.amid goes)

theorem canFinish_of_claiming (permits : PermitsPipelines others)
    (reachable : Reachable ⟨s, some (.attach c .claiming), k⟩) :
    CanFinish others now ⟨s, some (.attach c .claiming), k⟩ := by
  cases found : Table.get? c.id s.handles with
  | none => exact (canFinish_of_registering found).before (Goes.amid (goes_registering found))
  | some handle =>
    by_cases current : handle.generation = c.metadata.generation ∧ s.hasFinished handle.seq = false
    · have settled : Goes now ⟨s, some (.attach c .claiming), k⟩
          ⟨s, some (.attach c (.done (.ok ()))), k⟩ := by
        apply goes_of_stepAttach
        simp only [Supervisor.stepAttach, Supervisor.claim, found, if_pos current]
      exact (canFinish_of_result rfl).before (Goes.amid settled)
    · have awaiting : Relation.ReflTransGen (Amid others now) ⟨s, some (.attach c .claiming), k⟩ _ :=
        Goes.amid (goes_awaiting found current)
      have reachable' := reachable.amid awaiting
      obtain ⟨t, k', drives, ended, -, free⟩ := reachable'.exists_awaited reachable.sound.tidy
      have waits := awaiting.trans (amid_of_drives permits drives)
      exact (canFinish_of_registering free).before (waits.trans (Goes.amid (goes_awaited ended)))

theorem canFinish_of_detaching (permits : PermitsPipelines others)
    (reachable : Reachable ⟨s, some (.ofDetach c), k⟩) :
    CanFinish others now ⟨s, some (.ofDetach c), k⟩ := by
  cases found : Table.get? c.id s.handles with
  | none => exact (canFinish_of_result rfl).before (Goes.amid (goes_undetached found))
  | some handle =>
    have awaiting : Relation.ReflTransGen (Amid others now) ⟨s, some (.ofDetach c), k⟩ _ :=
      Goes.amid (goes_detaching found)
    have reachable' := reachable.amid awaiting
    obtain ⟨t, k', drives, ended, -⟩ := reachable'.exists_awaited reachable.sound.tidy
    have waits := awaiting.trans (amid_of_drives permits drives)
    exact (canFinish_of_result rfl).before (waits.trans (Goes.amid (goes_detached ended)))

/-- If the pipelines take their steps, every errand comes to an end. -/
theorem exists_performed (reachable : w.Reachable) (idle : w.IsIdle) (permits : PermitsPipelines others)
    (now : String) (e : Errand) : ∃ result v, w.Performs others now e result v := by
  have begun := reachable.step (.begin idle e.call_isFresh)
  cases e with
  | detach c => exact canFinish_of_detaching permits begun
  | attach c =>
    cases stopped : w.supervisor.stopped with
    | false =>
      have claiming : Relation.ReflTransGen (Amid others now) { w with call := some (.ofAttach c) } _ :=
        Goes.amid (goes_claiming stopped)
      exact (canFinish_of_claiming permits (begun.amid claiming)).before claiming
    | true =>
      have refused : Goes now { w with call := some (.ofAttach c) }
          ⟨w.supervisor, some (.attach c (.done (.error Supervisor.stoppedFailure))), w.cluster⟩ := by
        apply goes_of_stepAttach
        simp only [Supervisor.stepAttach, stopped, if_true]
      exact (canFinish_of_result rfl).before (Goes.amid refused)

end Session

end StreamOperator
