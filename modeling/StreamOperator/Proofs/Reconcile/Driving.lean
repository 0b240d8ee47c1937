import Mathlib.Logic.Relation
import StreamOperator.Proofs.Handler.Faults
import StreamOperator.Proofs.Reconcile.Runs

/-!
# What ends a pipeline

A subscription is driven up to the first fatal failure, its end or its cancellation, and every event
before is processed once (`Drive.faithful_run`). No event of a stream or a job ends in a fatal failure
where requests fail as requests do, so that a pipeline ends with its own watch or is told to
(`failing_events_are_survived`). The same is said of the steps of a run, which other runs may come in
between: whatever an event comes to, the run waits for the next one with the same subscription
(`Run.Survives`).
-/

set_option autoImplicit false

namespace StreamOperator

namespace Drive

variable {σ α : Type} {name : String} {process : Event α → Act σ Unit} {cancelled : Option Nat}
  {items rest : List (Except Failure (Event α))} {s s' : σ} {calls : List (Event α)}

/-! ## Items that are served -/

def events (items : List (Except Failure (Event α))) : List (Event α) :=
  items.filterMap Except.toOption

theorem events_cons (x : Except Failure (Event α)) (items : List (Except Failure (Event α))) :
    events (x :: items) = events [x] ++ events items :=
  List.filterMap_append (l := [x])

/-- Processing with a record of the events it was called for. -/
def recorded (process : Event α → Act σ Unit) (event : Event α) : Act (σ × List (Event α)) Unit :=
  fun (s, calls) =>
    let (result, s) := process event s
    (result, (s, calls ++ [event]))

/-- Items that are served one after another, each from what the one before has left, and none of them
with a fatal failure. -/
inductive Served (process : Event α → Act σ Unit) :
    List (Except Failure (Event α)) → σ → σ → Prop where
  | nil (s : σ) : Served process [] s s
  | cons {x : Except Failure (Event α)} {rest : List (Except Failure (Event α))} {s s₁ s₂ : σ}
      {result : Except Failure Unit} (done : item process x s = (result, s₁))
      (harmless : verdict result = none) (later : Served process rest s₁ s₂) :
      Served process (x :: rest) s s₂

/-- How a subscription ends when a number of items has been served, by what comes next: it is
cancelled, is at its end, or comes to a fatal failure. -/
inductive Ends (name : String) (process : Event α → Act σ Unit) (cancelled : Option Nat)
    (served : Nat) (s : σ) :
    List (Except Failure (Event α)) → Except Failure Unit → σ → List (Event α) → Prop where
  | cancelled {rest : List (Except Failure (Event α))} (told : cancelled = some served) :
      Ends name process cancelled served s rest (.ok ()) s []
  | closed (untold : cancelled ≠ some served) :
      Ends name process cancelled served s [] (.error (.subscriptionClosed name)) s []
  | failed {x : Except Failure (Event α)} {rest : List (Except Failure (Event α))} {e : Failure}
      {s' : σ} (untold : cancelled ≠ some served) (failed : item process x s = (.error e, s'))
      (fatal : e.isFatal = true) :
      Ends name process cancelled served s (x :: rest) (.error e) s' (events [x])

/-- Items are served up to an end, and the events among them are processed once each, in order. -/
def Faithful (name : String) (process : Event α → Act σ Unit) (cancelled : Option Nat)
    (items : List (Except Failure (Event α))) (s : σ) : Prop :=
  ∃ served rest s₁ s₂ result last, items = served ++ rest ∧ Served process served s s₁ ∧
    Ends name process cancelled served.length s₁ rest result s₂ last ∧
    run name process cancelled items s = (result, s₂) ∧
    ∀ calls, run name (recorded process) cancelled items (s, calls) =
      (result, (s₂, calls ++ (events served ++ last)))

theorem item_recorded (x : Except Failure (Event α)) (s : σ) (calls : List (Event α)) :
    item (recorded process) x (s, calls) =
      ((item process x s).1, ((item process x s).2, calls ++ events [x])) := by
  cases x with
  | ok event => rfl
  | error e =>
    show (Except.error e, (s, calls)) = (Except.error e, (s, calls ++ []))
    rw [List.append_nil]

theorem run_cancelled (items : List (Except Failure (Event α))) (s : σ) :
    run name process (some 0) items s = (.ok (), s) := by
  cases items <;> rfl

theorem run_closed (untold : cancelled ≠ some 0) (s : σ) :
    run name process cancelled [] s = (.error (.subscriptionClosed name), s) := by
  match cancelled with
  | none | some (_ + 1) => rfl
  | some 0 => exact absurd rfl untold

theorem run_cons (untold : cancelled ≠ some 0) (x : Except Failure (Event α))
    (rest : List (Except Failure (Event α))) (s : σ) :
    run name process cancelled (x :: rest) s =
      match verdict (item process x s).1 with
      | some e => (.error e, (item process x s).2)
      | none => run name process (cancelled.map Nat.pred) rest (item process x s).2 := by
  have unfolded : run name process cancelled (x :: rest) =
      ((item process x).attempt >>= fun result =>
        match verdict result with
        | some e => throw e
        | none => run name process (cancelled.map Nat.pred) rest) := by
    match cancelled with
    | none | some (_ + 1) => rfl
    | some 0 => exact absurd rfl untold
  rw [unfolded, Act.bind_ok (Act.attempt_apply _ s)]
  cases verdict (item process x s).1 <;> rfl

theorem verdict_eq_some {result : Except Failure Unit} {e : Failure} :
    verdict result = some e ↔ result = .error e ∧ e.isFatal = true := by
  cases result with
  | ok _ => simp [verdict]
  | error given =>
    rw [verdict, Option.ite_none_right_eq_some, Option.some_inj, Except.error.injEq]
    constructor
    · rintro ⟨fatal, rfl⟩
      exact ⟨rfl, fatal⟩
    · rintro ⟨rfl, fatal⟩
      exact ⟨fatal, rfl⟩

theorem verdict_eq_none {result : Except Failure Unit} :
    verdict result = none ↔ ∀ e, result = .error e → e.isFatal = false := by
  cases result with
  | ok _ => simp [verdict]
  | error given => simp [verdict]

/-- What ends a subscription after the items that follow the first ends it after one more. -/
theorem Ends.after {served : Nat} {result : Except Failure Unit} {last : List (Event α)}
    (untold : cancelled ≠ some 0)
    (ends : Ends name process (cancelled.map Nat.pred) served s rest result s' last) :
    Ends name process cancelled (served + 1) s rest result s' last := by
  have same : cancelled.map Nat.pred = some served ↔ cancelled = some (served + 1) := by
    match cancelled with
    | none => simp
    | some 0 => exact absurd rfl untold
    | some (n + 1) => simp
  cases ends with
  | cancelled told => exact .cancelled (same.1 told)
  | closed later => exact .closed (mt same.2 later)
  | failed later failed fatal => exact .failed (mt same.2 later) failed fatal

/-- A subscription is driven up to the first fatal failure, its end or its cancellation. -/
theorem faithful_run (name : String) (process : Event α → Act σ Unit) (cancelled : Option Nat)
    (items : List (Except Failure (Event α))) (s : σ) : Faithful name process cancelled items s := by
  induction items generalizing cancelled s with
  | nil =>
    by_cases told : cancelled = some 0
    · subst told
      exact ⟨[], [], s, s, _, [], rfl, .nil s, .cancelled rfl, run_cancelled [] s, fun calls => by
        simp [run_cancelled, events]⟩
    · exact ⟨[], [], s, s, _, [], rfl, .nil s, .closed told, run_closed told s, fun calls => by
        simp [run_closed told, events]⟩
  | cons x rest ih =>
    by_cases told : cancelled = some 0
    · subst told
      exact ⟨[], x :: rest, s, s, _, [], rfl, .nil s, .cancelled rfl, run_cancelled _ s, fun calls => by
        simp [run_cancelled, events]⟩
    · cases outcome : item process x s with
      | mk result s₁ =>
        cases judged : verdict result with
        | some e =>
          obtain ⟨rfl, fatal⟩ := verdict_eq_some.1 judged
          refine ⟨[], x :: rest, s, s₁, .error e, events [x], rfl, .nil s, .failed told outcome fatal,
            ?_, fun calls => ?_⟩
          · rw [run_cons told, outcome, judged]
          · rw [run_cons told, item_recorded, outcome, judged]
            rfl
        | none =>
          obtain ⟨served, others, s₂, s₃, final, last, rfl, serves, ends, ran, record⟩ :=
            ih (cancelled.map Nat.pred) s₁
          refine ⟨x :: served, others, s₂, s₃, final, last, rfl, .cons outcome judged serves,
            ends.after told, ?_, fun calls => ?_⟩
          · rw [run_cons told, outcome, judged]
            exact ran
          · rw [run_cons told, item_recorded, outcome, judged]
            refine (record _).trans ?_
            rw [events_cons x served, List.append_assoc, List.append_assoc]

/-! ## Harmless processing -/

/-- Of the watch's own failures only those that are not fatal are served. -/
theorem Served.harmless {e : Failure} (served : Served process items s s') (member : .error e ∈ items) :
    e.isFatal = false := by
  induction served with
  | nil => cases member
  | @cons x rest s s₁ s₂ result done judged later ih =>
    rcases List.mem_cons.1 member with rfl | member
    · obtain rfl : Except.error e = result := congrArg Prod.fst done
      exact verdict_eq_none.1 judged e rfl
    · exact ih member

/-- How a subscription ends that no event can end. -/
inductive EndsWithWatch (name : String) (cancelled : Option Nat) (served : Nat) :
    List (Except Failure (Event α)) → Except Failure Unit → Prop where
  | cancelled {rest : List (Except Failure (Event α))} (told : cancelled = some served) :
      EndsWithWatch name cancelled served rest (.ok ())
  | closed (untold : cancelled ≠ some served) :
      EndsWithWatch name cancelled served [] (.error (.subscriptionClosed name))
  | failed {rest : List (Except Failure (Event α))} {e : Failure} (untold : cancelled ≠ some served)
      (fatal : e.isFatal = true) :
      EndsWithWatch name cancelled served (.error e :: rest) (.error e)

/-- All events up to the end of the watch are processed, whatever becomes of them. -/
theorem run_of_harmless (harmless : ∀ event, (process event).Harmless) (cancelled : Option Nat)
    (items : List (Except Failure (Event α))) (s : σ) (calls : List (Event α)) :
    ∃ served rest result s', items = served ++ rest ∧
      (∀ e, .error e ∈ served → e.isFatal = false) ∧
      EndsWithWatch name cancelled served.length rest result ∧
      run name (recorded process) cancelled items (s, calls) =
        (result, (s', calls ++ events served)) := by
  obtain ⟨served, rest, s₁, s₂, result, last, split, serves, ends, -, record⟩ :=
    faithful_run name process cancelled items s
  refine ⟨served, rest, result, s₂, split, fun e member => serves.harmless member, ?_⟩
  cases ends with
  | cancelled told => exact ⟨.cancelled told, by rw [record, List.append_nil]⟩
  | closed untold => exact ⟨.closed untold, by rw [record, List.append_nil]⟩
  | @failed x rest e _ untold failed fatal =>
    cases x with
    | ok event => cases fatal.symm.trans (harmless event _ _ _ failed)
    | error given =>
      obtain rfl : given = e := Except.error.inj (congrArg Prod.fst failed)
      have none : events [(.error given : Except Failure (Event α))] = [] := rfl
      exact ⟨.failed untold fatal, by rw [record, none, List.append_nil]⟩

end Drive

/-! ## The reconcilers -/

namespace Reconciler

variable {σ α : Type} {r : Reconciler σ α} {h : Handler σ}

/-- Processing with what is remembered of the events before. -/
def remembering (r : Reconciler σ α) (h : Handler σ) (choice : Deduplicator → Nat)
    (event : Event α) : Act (Deduplicator × σ) Unit := fun (seen, s) =>
  let (seen', act) := r.process h (choice seen) seen event
  let (result, s) := act s
  (result, (seen', s))

/-- No event ends the pipeline of the reconciler: it processes all events up to the end of its watch,
unless it is cancelled. -/
def Survives (r : Reconciler σ α) (h : Handler σ) : Prop :=
  (∀ choice seen event, (r.process h choice seen event).2.Harmless) ∧
  ∀ (choice : Deduplicator → Nat) (cancelled : Option Nat)
    (items : List (Except Failure (Event α))) (seen : Deduplicator) (s : σ) (calls : List (Event α)),
    ∃ served rest result s', items = served ++ rest ∧
      (∀ e, .error e ∈ served → e.isFatal = false) ∧
      Drive.EndsWithWatch r.name cancelled served.length rest result ∧
      Drive.run r.name (Drive.recorded (r.remembering h choice)) cancelled items ((seen, s), calls) =
        (result, (s', calls ++ Drive.events served))

theorem survives (refuses : h.api.Refuses) (harmless : r.Harmless h) : r.Survives h := by
  have processed := process_harmless refuses harmless
  refine ⟨processed, fun choice cancelled items seen s calls => ?_⟩
  refine Drive.run_of_harmless (fun event => ?_) cancelled items (seen, s) calls
  rintro ⟨seen, s⟩ after e failed
  have outcome : ((r.process h (choice seen) seen event).2 s).1 = .error e := congrArg Prod.fst failed
  exact processed (choice seen) seen event s _ e (Prod.ext outcome rfl)

end Reconciler

/-! ## Runs -/

namespace Run

variable {α : Type} {r r' : Run α} {h : Handler Cluster} {cancelled : Bool} {k k' : Cluster}
  {ticket : Nat} {event : Event α} {result : Except Failure Unit}

/-- What ends a run in a step: its watch, or that it is told to stop. -/
inductive EndsWithWatch (r : Run α) (cancelled : Bool) (k : Cluster) : Except Failure Unit → Prop where
  | refused {e : Failure} {k' : Cluster} (standing : r.stage = .subscribing)
      (failed : r.feed.subscribe r.capacity k = (.error e, k')) :
      EndsWithWatch r cancelled k (.error e)
  | cancelled {ticket : Nat} (standing : r.stage = .idle ticket) (told : cancelled = true) :
      EndsWithWatch r cancelled k (.ok ())
  | failed {ticket : Nat} {e : Failure} {k' : Cluster} (standing : r.stage = .idle ticket)
      (taken : r.feed.take ticket k = (.item (.error e), k')) (fatal : e.isFatal = true) :
      EndsWithWatch r cancelled k (.error e)
  | closed {ticket : Nat} {k' : Cluster} (standing : r.stage = .idle ticket)
      (taken : r.feed.take ticket k = (.finished, k')) :
      EndsWithWatch r cancelled k (.error (.subscriptionClosed r.reconciler.name))

/-- A step of a run that is taken whether or not it is told to stop. -/
def Goes (h : Handler Cluster) (before after : Run α × Cluster) : Prop :=
  ∀ cancelled, before.1.step h cancelled before.2 = some after

/-- No event ends the run. In whatever it comes to, the run takes all its steps for it and waits for the
next event with the same subscription; and what ends it is its watch. -/
structure Survives (r : Run α) (h : Handler Cluster) : Prop where
  serves : ∀ ticket event k, r.stage = .received ticket event →
    Relation.ReflTransGen (Goes h) (r, k)
      ({ r with
          dedup := (r.reconciler.process h 0 r.dedup event).1
          stage := .idle ticket },
        ((r.reconciler.process h 0 r.dedup event).2 k).2)
  ends : ∀ cancelled k r' k' result, r.step h cancelled k = some (r', k') →
    r'.stage = .ended result → r.EndsWithWatch cancelled k result

theorem afterItem_of_harmless (harmless : ∀ e, result = .error e → e.isFatal = false) (ticket : Nat)
    (k : Cluster) : r.afterItem ticket result k = ({ r with stage := .idle ticket }, k) := by
  rw [afterItem, Drive.verdict_eq_none.2 harmless]

/-- A failure that ends a run is fatal. -/
theorem ended_afterItem {e : Failure}
    (ended : (r.afterItem ticket (.error e) k).1.stage = .ended result) :
    e.isFatal = true ∧ result = .error e := by
  unfold afterItem at ended
  split at ended
  · rename_i judged
    obtain ⟨given, fatal⟩ := Drive.verdict_eq_some.1 judged
    cases given
    cases ended
    exact ⟨fatal, rfl⟩
  · cases ended

theorem afterItem_ne_ended {e : Failure} (survived : e.isFatal = false) :
    (r.afterItem ticket (.error e) k).1.stage ≠ .ended result := by
  intro ended
  cases survived.symm.trans (ended_afterItem ended).1

/-- The commands of an event are carried out one by one, up to the first failure. -/
theorem goes_commands (refuses : h.api.Refuses) (commands : List Command)
    (standing : r.stage = .executing ticket commands) (k : Cluster) :
    Relation.ReflTransGen (Goes h) (r, k)
      ({ r with stage := .idle ticket }, (h.handleAll commands k).2) := by
  induction commands generalizing r k with
  | nil =>
    refine .single fun cancelled => ?_
    simp only [step, standing]
    rfl
  | cons command rest ih =>
    cases done : h.handle command k with
    | mk result k₁ =>
      cases result with
      | ok _ =>
        have first : Goes h (r, k) ({ r with stage := .executing ticket rest }, k₁) := fun cancelled => by
          simp only [step, standing, done]
        have all : h.handleAll (command :: rest) k = h.handleAll rest k₁ := Act.bind_ok done
        rw [all]
        exact .head first (ih rfl k₁)
      | error e =>
        have fatal : e.isFatal = false := Handler.handle_harmless refuses command _ _ _ done
        have all : h.handleAll (command :: rest) k = (.error e, k₁) := Act.bind_error done
        refine .single fun cancelled => ?_
        simp only [step, standing, done, all]
        rw [afterItem_of_harmless (by simpa using fatal)]

/-- Whatever an event comes to, the run waits for the next one afterwards. -/
theorem goes_received (refuses : h.api.Refuses) (harmless : r.reconciler.Harmless h)
    (standing : r.stage = .received ticket event) (k : Cluster) :
    Relation.ReflTransGen (Goes h) (r, k)
      ({ r with
          dedup := (r.reconciler.process h 0 r.dedup event).1
          stage := .idle ticket },
        ((r.reconciler.process h 0 r.dedup event).2 k).2) := by
  cases filtered : r.dedup.filter 0 r.reconciler.kind (r.reconciler.metadata event.resource) with
  | mk passes seen =>
    simp only [Reconciler.process, filtered]
    cases passes with
    | false =>
      refine .single fun cancelled => ?_
      simp only [step, standing, filtered]
      rfl
    | true =>
      simp only [if_true, Reconciler.perform]
      cases planned : r.reconciler.plan h.api event k with
      | mk result k₁ =>
        cases result with
        | ok commands =>
          have first : Goes h (r, k)
              ({ r with dedup := seen, stage := .executing ticket commands }, k₁) := fun cancelled => by
            simp only [step, standing, filtered, planned]
            rfl
          rw [Act.bind_ok planned]
          exact .head first (goes_commands refuses commands rfl k₁)
        | error e =>
          have fatal : e.isFatal = false := harmless event _ _ _ planned
          rw [Act.bind_error planned]
          refine .single fun cancelled => ?_
          simp only [step, standing, filtered, planned]
          rw [afterItem_of_harmless (by simpa using fatal)]
          rfl

/-- What ends a run is its watch or that it is told to stop. -/
theorem endsWithWatch_of_step (refuses : h.api.Refuses) (harmless : r.reconciler.Harmless h)
    (taken : r.step h cancelled k = some (r', k')) (ended : r'.stage = .ended result) :
    r.EndsWithWatch cancelled k result := by
  cases standing : r.stage with
  | subscribing =>
    simp only [step, standing] at taken
    split at taken
    · cases taken
      cases ended
    · rename_i failed
      cases taken
      cases ended
      exact .refused standing failed
  | idle ticket =>
    simp only [step, standing] at taken
    split at taken
    · rename_i told
      cases taken
      cases ended
      exact .cancelled standing told
    · split at taken
      · cases taken
      · cases taken
        cases ended
      · rename_i item
        obtain ⟨rfl, -⟩ := afterItem_eq taken
        obtain ⟨fatal, rfl⟩ := ended_afterItem ended
        exact .failed standing item fatal
      · rename_i item
        obtain ⟨rfl, -⟩ := afterItem_eq taken
        obtain ⟨-, rfl⟩ := ended_afterItem ended
        exact .closed standing item
  | received ticket event =>
    simp only [step, standing] at taken
    split at taken
    · cases taken
      cases ended
    · split at taken
      · cases taken
        cases ended
      · rename_i failed
        obtain ⟨rfl, -⟩ := afterItem_eq taken
        exact absurd ended (afterItem_ne_ended (harmless event _ _ _ failed))
  | executing ticket commands =>
    cases commands with
    | nil =>
      simp only [step, standing] at taken
      cases taken
      cases ended
    | cons command rest =>
      simp only [step, standing] at taken
      split at taken
      · cases taken
        cases ended
      · rename_i failed
        obtain ⟨rfl, -⟩ := afterItem_eq taken
        exact absurd ended (afterItem_ne_ended (Handler.handle_harmless refuses command _ _ _ failed))
  | ended result => simp [step, standing] at taken

theorem survives (refuses : h.api.Refuses) (harmless : r.reconciler.Harmless h) : r.Survives h where
  serves _ _ k standing := goes_received refuses harmless standing k
  ends _ _ _ _ _ taken ended := endsWithWatch_of_step refuses harmless taken ended

end Run

/-- Events whose processing fails are survived by every pipeline: a subscription is driven up to the
first fatal failure, its end or its cancellation; and where requests fail as requests do no event of a
stream or a job comes to such a failure, neither driven alone nor with other runs in between. -/
theorem failing_events_are_survived {σ : Type} (h : Handler σ) (refuses : h.api.Refuses)
    (g : Handler Cluster) (refuses' : g.api.Refuses) :
    (∀ (σ α : Type) (name : String) (process : Event α → Act σ Unit) (cancelled : Option Nat)
      (items : List (Except Failure (Event α))) (s : σ),
      Drive.Faithful name process cancelled items s) ∧
    (∀ c, (Reconciler.stream c).Survives h) ∧ Reconciler.job.Survives h ∧
    (∀ (c : Coordinates) (r : Run Resource), r.reconciler = Reconciler.stream c → r.Survives g) ∧
    ∀ (r : Run Job), r.reconciler = Reconciler.job → r.Survives g :=
  ⟨fun _ _ => Drive.faithful_run,
    fun c => Reconciler.survives refuses (Reconciler.harmless_stream refuses c),
    Reconciler.survives refuses (Reconciler.harmless_job refuses),
    fun c _ own => Run.survives refuses' (own ▸ Reconciler.harmless_stream refuses' c),
    fun _ own => Run.survives refuses' (own ▸ Reconciler.harmless_job refuses')⟩

section Orders

/-- The run of the jobs, with the report of the orders' job. -/
def reportedOrders : Run Job :=
  { Run.ofJobs 1 1 with stage := .received 0 ⟨.added, Orders.job "2" none []⟩ }

/-- Nobody can read a definition. -/
def unreadable : Cluster := { failing := ["get_custom_resource"] }

def plainHandler : Handler Cluster := ⟨Cluster.api, fun _ => some Orders.streamClass, "2024-01-01T00:00:00Z"⟩

/-- The report of a job whose definition cannot be read fails, and the run waits for the next one. -/
theorem unread_owner_is_survived :
    ((reportedOrders.reconciler.process plainHandler 0 reportedOrders.dedup
      ⟨.added, Orders.job "2" none []⟩).2 unreadable).1 = .error (Cluster.refusal 500 "injected failure") ∧
    ∃ seen, Relation.ReflTransGen (Run.Goes plainHandler) (reportedOrders, unreadable)
      ({ reportedOrders with dedup := seen, stage := .idle 0 }, unreadable) := by
  have survives : reportedOrders.Survives plainHandler := (failing_events_are_survived plainHandler
    Cluster.api_refuses plainHandler Cluster.api_refuses).2.2.2.2 reportedOrders rfl
  exact ⟨rfl, _, survives.serves 0 ⟨.added, Orders.job "2" none []⟩ unreadable rfl⟩

end Orders

end StreamOperator
