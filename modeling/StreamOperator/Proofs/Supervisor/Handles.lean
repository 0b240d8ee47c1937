import StreamOperator.Proofs.Supervisor.Origins

/-!
# Handles and their pipelines

A handle goes with the pipeline it was made for (`Session.Matched`): it stands under the id of its
class, it and its pipeline are of one class, and as long as the supervisor is not stopped the pipeline
of a handle that stands has not ended and was not told to stop. The handles that a call has taken are
of classes that are told apart by their ids.
-/

set_option autoImplicit false

namespace StreamOperator

/-- The handles that a call has taken and has not given up yet. -/
def Call.taken : Call → List Handle
  | detach _ (.awaiting handle) | detach _ (.releasing handle) => [handle]
  | stop (.awaiting handles) => handles
  | stop (.releasing handle rest) => handle :: rest
  | stop (.reporting _ rest _) => rest
  | _ => []

theorem Call.taken_of_isFresh {call : Call} (fresh : call.IsFresh) : call.taken = [] := by
  unfold Call.IsFresh at fresh
  split at fresh
  · rfl
  · rfl
  · rfl
  · cases fresh

namespace Supervisor

variable {s t : Supervisor} {now : String} {k k' : Cluster} {call next : Call} {handle : Handle}
  {m : Nat}

@[simp] theorem nextSeq_revoke {id : String} : (s.revoke id handle).nextSeq = s.nextSeq :=
  nextSeq_cancel

@[simp] theorem stopped_revoke {id : String} : (s.revoke id handle).stopped = s.stopped :=
  stopped_cancel

@[simp] theorem taken_awaitFirst (handles : List Handle) :
    Call.taken (.stop (s.awaitFirst handles).1) = handles := by
  cases handles <;> rfl

@[simp] theorem handles_awaitFirst (handles : List Handle) :
    (s.awaitFirst handles).2.handles = s.handles := by
  cases handles with
  | nil => rfl
  | cons first rest => exact handles_cancel

@[simp] theorem nextSeq_awaitFirst (handles : List Handle) :
    (s.awaitFirst handles).2.nextSeq = s.nextSeq := by
  cases handles with
  | nil => rfl
  | cons first rest => exact nextSeq_cancel

@[simp] theorem stopped_awaitFirst (handles : List Handle) :
    (s.awaitFirst handles).2.stopped = s.stopped := by
  cases handles with
  | nil => rfl
  | cons first rest => exact stopped_cancel

/-- A pipeline is replaced when its own handle stands. -/
theorem restart_of_handle {p : Pipeline} (running : s.stopped = false)
    (found : Table.get? p.streamClass.id s.handles = some handle) (own : handle.seq = p.seq) :
    s.restart p = s.spawn p.streamClass true := by
  simp [restart, running, found, own]

theorem advance_restarting {clock : Nat} {p : Pipeline} (due : p.stage = .restarting) :
    s.advance now clock p k = some (.finished, s.restart p, k) := by
  simp [advance, due]

/-- The handle was made for a pipeline, and that pipeline is of its class. -/
structure Backs (s : Supervisor) (handle : Handle) : Prop where
  given : handle.seq < s.nextSeq
  served : ∀ {p}, s.pipeline? handle.seq = some p → p.streamClass = handle.streamClass

/-- The pipelines of the handles have not ended and were not told to stop. -/
def Staffed (s : Supervisor) : Prop :=
  s.stopped = false → ∀ entry ∈ s.handles,
    ∃ p, s.pipeline? entry.2.seq = some p ∧ p.cancelled = false

/-- The numbers of pipelines are given out in ascending order. -/
theorem nextSeq_le_of_stepPipeline {clock : Nat} (tidy : s.Tidy)
    (taken : s.stepPipeline now clock m k = some (t, k')) : s.nextSeq ≤ t.nextSeq := by
  obtain ⟨p, stage, s', -, -, -, rfl, standing⟩ := advance_of_stepPipeline tidy taken
  rcases standing with rfl | ⟨-, -, rfl, -⟩
  · exact Nat.le_refl _
  · exact Nat.le_succ _

theorem install_of_unhandled {c : StreamClass} (unhandled : Table.get? c.id s.handles = none) :
    s.install c = s.spawn c false := by
  simp [install, unhandled]

end Supervisor

namespace Session

variable {w v : Session} {handle : Handle} {entry : String × Handle} {c : StreamClass}
  {call next : Call} {id : String} {n : Nat} {p q : Pipeline}

/-- The class is about to get a pipeline, or a pipeline of it runs. -/
def Asks (w : Session) (c : StreamClass) : Prop :=
  w.call = some (.attach c .spawning) ∨ ∃ n p, w.supervisor.pipeline? n = some p ∧ p.streamClass = c

/-- A handle that is new after a step, and its pipeline. -/
structure Granted (w v : Session) (c : StreamClass) (entry : String × Handle) : Prop where
  entry_eq : entry = (c.id, ⟨c, c.metadata.generation, w.supervisor.nextSeq⟩)
  number : v.supervisor.nextSeq = w.supervisor.nextSeq + 1
  started : ∃ restarted, v.supervisor.pipeline? w.supervisor.nextSeq =
    some ⟨c, w.supervisor.nextSeq, false, .starting restarted⟩
  asked : w.Asks c

/-- What a step does to the handles. -/
inductive Handling (w v : Session) : Prop where
  | kept (same : v.supervisor.handles = w.supervisor.handles)
  | revoked {id : String} (erased : v.supervisor.handles = Table.erase id w.supervisor.handles)
  | drained (emptied : v.supervisor.handles = [])
  | granted {c : StreamClass} {entry : String × Handle} (grant : Granted w v c entry)
      (written : v.supervisor.handles = Table.set entry.1 entry.2 w.supervisor.handles)

/-- A step of a session has one of these effects on the handles. -/
theorem Step.handling (sound : w.Sound) (step : Step w v) : Handling w v := by
  cases step with
  | pipeline taken =>
    obtain ⟨p, stage, s', found, rfl, -, rfl, standing⟩ :=
      Supervisor.advance_of_stepPipeline sound.tidy taken
    rcases standing with rfl | ⟨rfl, -, rfl, -⟩
    · exact .kept rfl
    · have given : p.seq < w.supervisor.nextSeq := sound.tidy.seq_lt found
      refine .granted (c := p.streamClass) ⟨rfl, rfl, ⟨true, ?_⟩, .inr ⟨_, p, found, rfl⟩⟩ rfl
      have other : w.supervisor.nextSeq ≠ p.seq := by omega
      simp [Supervisor.pipeline?_setPipeline, Supervisor.pipeline?_spawn, other]
  | call current taken =>
    cases Supervisor.callStep_of_stepCall taken with
    | @attach c _ _ _ _ moved =>
      cases moved with
      | claimed => exact .revoked Supervisor.handles_revoke
      | spawned =>
        have unhandled : Table.get? c.id w.supervisor.handles = none := sound.claimed current rfl
        rw [Supervisor.install_of_unhandled unhandled]
        refine .granted (c := c) ⟨rfl, rfl, ⟨false, ?_⟩, .inl current⟩ rfl
        simp [Supervisor.pipeline?_spawn]
      | _ => exact .kept rfl
    | detach moved =>
      cases moved with
      | claimed => exact .revoked Supervisor.handles_revoke
      | _ => exact .kept rfl
    | stop moved =>
      cases moved with
      | drained => exact .drained (Supervisor.handles_awaitFirst _)
      | reported => exact .kept (Supervisor.handles_awaitFirst _)
      | _ => exact .kept rfl
  | begin | cancel | elsewhere => exact .kept rfl

theorem Handling.distinct (handling : Handling w v) (distinct : Table.Distinct w.supervisor.handles) :
    Table.Distinct v.supervisor.handles := by
  cases handling with
  | kept same =>
    rw [same]
    exact distinct
  | revoked erased =>
    rw [erased]
    exact distinct.erase
  | drained emptied =>
    rw [emptied]
    exact List.nodup_nil
  | granted grant written =>
    rw [written]
    exact distinct.set

/-- A handle that stands after a step stood before it, or is new. -/
theorem Handling.origin (handling : Handling w v) (distinct : Table.Distinct w.supervisor.handles)
    (member : entry ∈ v.supervisor.handles) :
    entry ∈ w.supervisor.handles ∨ ∃ c, Granted w v c entry := by
  cases handling with
  | kept same =>
    rw [same] at member
    exact .inl member
  | revoked erased =>
    rw [erased] at member
    exact .inl (Table.mem_erase.1 member).1
  | drained emptied =>
    rw [emptied] at member
    cases member
  | granted grant written =>
    rw [written] at member
    rcases Table.mem_of_mem_set distinct member with own | ⟨kept, -⟩
    · subst own
      exact .inr ⟨_, grant⟩
    · exact .inl kept

/-- The handles that stand, and those that the call has taken. -/
def Hands (w : Session) (handle : Handle) : Prop :=
  (∃ id, (id, handle) ∈ w.supervisor.handles) ∨ ∃ call, w.call = some call ∧ handle ∈ call.taken

/-- The handles go with the pipelines. -/
structure Matched (w : Session) : Prop where
  distinct : Table.Distinct w.supervisor.handles
  named : ∀ entry ∈ w.supervisor.handles, entry.2.streamClass.id = entry.1
  generation : ∀ entry ∈ w.supervisor.handles,
    entry.2.generation = entry.2.streamClass.metadata.generation
  backed : ∀ {handle}, w.Hands handle → w.supervisor.Backs handle
  staffed : w.supervisor.Staffed
  takenApart : ∀ {call}, w.call = some call → (call.taken.map fun h => h.streamClass.id).Nodup
  detached : ∀ {c stage}, w.call = some (.detach c stage) →
    ∀ handle ∈ (Call.detach c stage).taken, handle.streamClass.id = c.id

theorem Initial.matched (h : w.Initial) : w.Matched := by
  obtain ⟨uncalled, classes, dedup, delay, buffer, new⟩ := h
  have none_yet : w.supervisor.handles = [] := by
    rw [new]
    rfl
  refine ⟨?_, ?_, ?_, ?_, ?_, ?_, ?_⟩
  · rw [none_yet]
    exact List.nodup_nil
  · intro entry member
    rw [none_yet] at member
    cases member
  · intro entry member
    rw [none_yet] at member
    cases member
  · rintro handle (⟨id, member⟩ | ⟨call, current, -⟩)
    · rw [none_yet] at member
      cases member
    · rw [uncalled] at current
      cases current
  · intro _ entry member
    rw [none_yet] at member
    cases member
  · intro call current
    rw [uncalled] at current
    cases current
  · intro c stage current
    rw [uncalled] at current
    cases current

/-! ## Steps -/

theorem Matched.get? (matched : w.Matched) (member : entry ∈ w.supervisor.handles) :
    Table.get? entry.1 w.supervisor.handles = some entry.2 :=
  Table.get?_of_mem matched.distinct member

theorem Matched.backed_of_mem (matched : w.Matched) (member : entry ∈ w.supervisor.handles) :
    w.supervisor.Backs entry.2 :=
  matched.backed (.inl ⟨entry.1, member⟩)

theorem hands_of_get? (found : Table.get? id w.supervisor.handles = some handle) :
    w.Hands handle :=
  .inl ⟨id, Table.mem_of_get? found⟩

/-- A call takes handles only out of the table, and gives them up one by one. -/
theorem Step.taken (step : Step w v) (current : v.call = some next) (member : handle ∈ next.taken) :
    w.Hands handle := by
  cases step with
  | pipeline | cancel | elsewhere => exact .inr ⟨next, current, member⟩
  | begin _ fresh =>
    cases current
    rw [Call.taken_of_isFresh fresh] at member
    cases member
  | call before taken =>
    cases current
    cases Supervisor.callStep_of_stepCall taken with
    | attach moved => cases moved <;> cases member
    | detach moved =>
      cases moved with
      | unhandled | released => cases member
      | claimed found =>
        obtain rfl := List.mem_singleton.1 member
        exact hands_of_get? found
      | awaited => exact .inr ⟨_, before, member⟩
    | stop moved =>
      cases moved with
      | cancelled | exhausted => cases member
      | drained =>
        rw [Supervisor.taken_awaitFirst] at member
        obtain ⟨entry, standing, rfl⟩ := List.mem_map.1 member
        exact .inl ⟨entry.1, standing⟩
      | awaited | reporting => exact .inr ⟨_, before, member⟩
      | released => exact .inr ⟨_, before, List.mem_cons_of_mem _ member⟩
      | reported =>
        rw [Supervisor.taken_awaitFirst] at member
        exact .inr ⟨_, before, member⟩

theorem Step.nextSeq_le (sound : w.Sound) (step : Step w v) :
    w.supervisor.nextSeq ≤ v.supervisor.nextSeq := by
  cases step with
  | pipeline taken => exact Supervisor.nextSeq_le_of_stepPipeline sound.tidy taken
  | call current taken =>
    cases Supervisor.callStep_of_stepCall taken with
    | @attach c _ _ _ _ moved =>
      cases moved with
      | claimed => exact Nat.le_of_eq Supervisor.nextSeq_revoke.symm
      | spawned =>
        have unhandled : Table.get? c.id w.supervisor.handles = none := sound.claimed current rfl
        rw [Supervisor.install_of_unhandled unhandled]
        exact Nat.le_succ _
      | _ => exact Nat.le_refl _
    | detach moved =>
      cases moved with
      | claimed => exact Nat.le_of_eq Supervisor.nextSeq_revoke.symm
      | _ => exact Nat.le_refl _
    | stop moved =>
      cases moved with
      | drained | reported => simp
      | _ => exact Nat.le_refl _
  | begin | cancel | elsewhere => exact Nat.le_refl _

/-- The number of a handle stays with its pipeline. -/
theorem Step.backs (sound : w.Sound) (step : Step w v) (backs : w.supervisor.Backs handle) :
    v.supervisor.Backs handle := by
  refine ⟨Nat.lt_of_lt_of_le backs.given (step.nextSeq_le sound), ?_⟩
  intro q found
  cases step.origin sound found with
  | kept stood stage same told => exact same.trans (backs.served stood)
  | advanced stood taken written =>
    have same := backs.served stood
    rw [written]
    exact same
  | started number stage => exact absurd number (Nat.ne_of_lt backs.given)

theorem Granted.backs (grant : Granted w v c entry) : v.supervisor.Backs entry.2 := by
  obtain ⟨rfl, number, ⟨restarted, started⟩, -⟩ := grant
  refine ⟨?_, ?_⟩
  · rw [number]
    exact Nat.lt_succ_self _
  · intro p found
    rw [started] at found
    obtain rfl := Option.some.inj found
    rfl

theorem Matched.backed_step (matched : w.Matched) (sound : w.Sound) (step : Step w v)
    (hands : v.Hands handle) : v.supervisor.Backs handle := by
  rcases hands with ⟨id, member⟩ | ⟨call, current, member⟩
  · rcases (step.handling sound).origin matched.distinct member with before | ⟨c, grant⟩
    · exact step.backs sound (matched.backed_of_mem before)
    · exact grant.backs
  · exact step.backs sound (matched.backed (step.taken current member))

/-! ## Pipelines of handles -/

/-- Two handles with one pipeline are of one class. -/
theorem Matched.sameClass (matched : w.Matched) {first second : Handle} (hands : w.Hands first)
    (hands' : w.Hands second) (found : w.supervisor.pipeline? first.seq = some p)
    (same : first.seq = second.seq) : first.streamClass = second.streamClass := by
  rw [← (matched.backed hands).served found]
  exact (matched.backed hands').served (same ▸ found)

/-- No two ids have handles with one pipeline. -/
theorem Matched.id_eq_of_seq (matched : w.Matched) {id' : String} {other : Handle}
    (standing : Table.get? id w.supervisor.handles = some handle)
    (standing' : Table.get? id' w.supervisor.handles = some other)
    (found : w.supervisor.pipeline? handle.seq = some p) (same : handle.seq = other.seq) :
    id = id' := by
  have sameClass := matched.sameClass (hands_of_get? standing) (hands_of_get? standing') found same
  have named := matched.named _ (Table.mem_of_get? standing)
  rw [sameClass, matched.named _ (Table.mem_of_get? standing')] at named
  exact named.symm

/-- A handle is taken away, and the others keep their pipelines. -/
theorem Matched.staffed_revoke (matched : w.Matched) (tidy : w.supervisor.Tidy)
    (found : Table.get? id w.supervisor.handles = some handle) :
    (w.supervisor.revoke id handle).Staffed := by
  intro running entry member
  rw [Supervisor.handles_revoke] at member
  obtain ⟨member, other⟩ := Table.mem_erase.1 member
  rw [Supervisor.stopped_revoke] at running
  obtain ⟨p, hp, active⟩ := matched.staffed running entry member
  refine ⟨p, ?_, active⟩
  rw [Supervisor.revoke, Supervisor.pipeline?_cancel (tidy.withHandles _), if_neg]
  · exact hp
  · intro same
    exact other (matched.id_eq_of_seq (matched.get? member) found hp same)

/-- A new pipeline comes with its handle. -/
theorem Matched.staffed_spawn (matched : w.Matched) (running : w.supervisor.stopped = false)
    (restarted : Bool) : (w.supervisor.spawn c restarted).Staffed := by
  intro _ entry member
  rcases Table.mem_of_mem_set matched.distinct member with rfl | ⟨standing, -⟩
  · exact ⟨_, (Supervisor.pipeline?_spawn restarted).trans (if_pos rfl), rfl⟩
  · obtain ⟨p, found, active⟩ := matched.staffed running entry standing
    refine ⟨p, ?_, active⟩
    rw [Supervisor.pipeline?_spawn, if_neg (Nat.ne_of_lt (matched.backed_of_mem standing).given)]
    exact found

/-- A pipeline whose handle stands does not end, unless a new one takes its place. -/
theorem Matched.not_finished {now : String} {clock : Nat} {stage : PipelineStage} {k : Cluster}
    (matched : w.Matched) (running : w.supervisor.stopped = false)
    (orderly : p.Orderly w.supervisor) (active : p.cancelled = false)
    (member : entry ∈ w.supervisor.handles) (found : w.supervisor.pipeline? entry.2.seq = some p)
    (own : entry.2.seq = p.seq)
    (advanced : w.supervisor.advance now clock p w.cluster = some (stage, w.supervisor, k)) :
    stage ≠ .finished := by
  rintro rfl
  have token : w.supervisor.isCancelled p = false := by
    rw [Supervisor.isCancelled, running, active]
    rfl
  have due := Supervisor.restarting_of_advance_finished orderly token advanced
  have handled : Table.get? p.streamClass.id w.supervisor.handles = some entry.2 := by
    rw [(matched.backed_of_mem member).served found, matched.named _ member]
    exact matched.get? member
  rw [Supervisor.advance_restarting due, Supervisor.restart_of_handle running handled own,
    Option.some.injEq, Prod.mk.injEq, Prod.mk.injEq] at advanced
  have number := congrArg Supervisor.nextSeq advanced.2.1
  exact absurd number (Nat.succ_ne_self _)

theorem Matched.staffed_stepPipeline {now : String} {clock m : Nat} {t : Supervisor} {k : Cluster}
    (matched : w.Matched) (tidy : w.supervisor.Tidy)
    (orderly : ∀ {n p}, w.supervisor.pipeline? n = some p → p.Orderly w.supervisor)
    (taken : w.supervisor.stepPipeline now clock m w.cluster = some (t, k)) : t.Staffed := by
  obtain ⟨p, stage, s', found, rfl, advanced, rfl, standing⟩ :=
    Supervisor.advance_of_stepPipeline tidy taken
  rcases standing with rfl | ⟨rfl, running, rfl, -⟩
  · intro (running : w.supervisor.stopped = false) entry (member : entry ∈ w.supervisor.handles)
    obtain ⟨q, hq, active⟩ := matched.staffed running entry member
    by_cases own : entry.2.seq = p.seq
    · obtain rfl : p = q := Option.some.inj (found.symm.trans (own ▸ hq))
      have unfinished : stage ≠ .finished :=
        matched.not_finished running (orderly found) active member hq own advanced
      refine ⟨{ p with stage := stage }, ?_, active⟩
      rw [Supervisor.pipeline?_setPipeline, if_pos own, if_neg]
      cases stage <;> simp_all [Pipeline.isFinished]
    · refine ⟨q, ?_, active⟩
      rw [Supervisor.pipeline?_setPipeline, if_neg own]
      exact hq
  · intro _ entry member
    obtain ⟨q, hq, active⟩ := matched.staffed_spawn running true running entry member
    refine ⟨q, ?_, active⟩
    rw [Supervisor.pipeline?_setPipeline, if_neg]
    · exact hq
    · intro (same : entry.2.seq = p.seq)
      rcases Table.mem_of_mem_set matched.distinct member with rfl | ⟨standing, other⟩
      · exact Nat.ne_of_lt (tidy.seq_lt found) same.symm
      · apply other
        rw [← matched.named _ standing]
        rw [(matched.backed_of_mem standing).served (same ▸ found)]

theorem Matched.staffed_step (matched : w.Matched) (sound : w.Sound)
    (orderly : ∀ {n p}, w.supervisor.pipeline? n = some p → p.Orderly w.supervisor)
    (step : Step w v) : v.supervisor.Staffed := by
  cases step with
  | pipeline taken => exact matched.staffed_stepPipeline sound.tidy orderly taken
  | call current taken =>
    cases Supervisor.callStep_of_stepCall taken with
    | @attach c _ _ _ _ moved =>
      cases moved with
      | claimed found => exact matched.staffed_revoke sound.tidy found
      | spawned =>
        have unhandled : Table.get? c.id w.supervisor.handles = none := sound.claimed current rfl
        rw [Supervisor.install_of_unhandled unhandled]
        intro running
        exact matched.staffed_spawn running false running
      | _ => exact matched.staffed
    | detach moved =>
      cases moved with
      | claimed found => exact matched.staffed_revoke sound.tidy found
      | _ => exact matched.staffed
    | stop moved =>
      cases moved with
      | cancelled =>
        intro running
        cases running
      | drained | reported =>
        intro running
        have stopped : w.supervisor.stopped = true := sound.stopping current trivial
        simp [stopped] at running
      | _ => exact matched.staffed
  | cancel =>
    intro running
    cases running
  | begin | elsewhere => exact matched.staffed

/-! ## Runs -/

/-- The handles that a call has taken are of different classes. -/
theorem Matched.takenApart_step (matched : w.Matched) (step : Step w v)
    (current : v.call = some next) : (next.taken.map fun h => h.streamClass.id).Nodup := by
  cases step with
  | pipeline | cancel | elsewhere => exact matched.takenApart current
  | begin _ fresh =>
    cases current
    rw [Call.taken_of_isFresh fresh]
    exact List.nodup_nil
  | call before taken =>
    cases current
    cases Supervisor.callStep_of_stepCall taken with
    | attach moved => cases moved <;> exact List.nodup_nil
    | detach moved =>
      cases moved with
      | unhandled | released => exact List.nodup_nil
      | claimed | awaited => exact List.nodup_singleton _
    | stop moved =>
      cases moved with
      | cancelled | exhausted => exact List.nodup_nil
      | drained =>
        have ids : (w.supervisor.handles.map Prod.snd).map (fun h => h.streamClass.id) =
            w.supervisor.handles.map Prod.fst := by
          rw [List.map_map]
          exact List.map_congr_left matched.named
        rw [Supervisor.taken_awaitFirst, ids]
        exact matched.distinct
      | awaited | reporting =>
        have apart := matched.takenApart before
        exact apart
      | released => exact (List.nodup_cons.1 (matched.takenApart before)).2
      | reported =>
        rw [Supervisor.taken_awaitFirst]
        exact matched.takenApart before

theorem Matched.detached_step {stage : DetachStage} (matched : w.Matched) (step : Step w v)
    (current : v.call = some (.detach c stage)) (member : handle ∈ (Call.detach c stage).taken) :
    handle.streamClass.id = c.id := by
  cases step with
  | pipeline | cancel | elsewhere => exact matched.detached current handle member
  | begin _ fresh =>
    cases current
    rw [Call.taken_of_isFresh fresh] at member
    cases member
  | call before taken =>
    cases current
    cases Supervisor.callStep_of_stepCall taken with
    | detach moved =>
      cases moved with
      | unhandled | released => cases member
      | claimed found =>
        obtain rfl := List.mem_singleton.1 member
        exact matched.named _ (Table.mem_of_get? found)
      | awaited => exact matched.detached before handle member

theorem Matched.step (matched : w.Matched) (sound : w.Sound)
    (orderly : ∀ {n p}, w.supervisor.pipeline? n = some p → p.Orderly w.supervisor)
    (step : Step w v) : v.Matched := by
  have handling := step.handling sound
  refine ⟨handling.distinct matched.distinct, ?_, ?_, matched.backed_step sound step,
    matched.staffed_step sound orderly step, matched.takenApart_step step,
    fun current _ => matched.detached_step step current⟩
  · intro entry member
    rcases handling.origin matched.distinct member with before | ⟨c, rfl, -⟩
    · exact matched.named entry before
    · rfl
  · intro entry member
    rcases handling.origin matched.distinct member with before | ⟨c, rfl, -⟩
    · exact matched.generation entry before
    · rfl

theorem Reachable.matched (reachable : w.Reachable) : w.Matched :=
  reachable.invariant Initial.matched fun before matched step =>
    matched.step before.sound before.orderly step

end Session

end StreamOperator
