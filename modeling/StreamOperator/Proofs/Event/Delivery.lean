import StreamOperator.Proofs.Event.Answers

/-!
# Delivery of buffered events

What is accepted is delivered in order, and the consumer learns of an overflow once
(`Exchange.exact_run`). That much follows from what holds of every exchange. That the consumer gets to
the end takes a count of the steps that are left to it (`Exchange.work`): once nothing is accepted any
more no step makes them more, and every step of the consumer that finds something to take makes them
fewer.
-/

set_option autoImplicit false

namespace StreamOperator.Exchange

variable {α : Type} {source : String} {capacity : Nat} {x y : Exchange α} {move : Move α}

/-! ## Steps that are left -/

/-- No event is accepted any more. -/
def Closing (x : Exchange α) : Prop :=
  x.buffer.overflowed = true ∨ x.producer = .gone ∨ ∃ failure, x.producer = .failing failure

/-- The consumer need not wait. -/
def Ready (x : Exchange α) : Prop :=
  x.buffer.consumer ≠ .reading ∨ x.buffer.overflowed = true ∨ x.buffer.senders = 0 ∨ x.buffer.items ≠ []

/-- The steps that the consumer can take before the end: two for each item, one that a sender may still
add and one for the end itself. -/
def work (x : Exchange α) : Nat :=
  match x.buffer.consumer with
  | .reading =>
    2 * (x.buffer.items.length + 1 + x.buffer.senders) - if x.seen.isSome then 1 else 0
  | _ => 0

theorem work_of_reading (reading : x.buffer.consumer = .reading) : x.work =
    2 * (x.buffer.items.length + 1 + x.buffer.senders) - if x.seen.isSome then 1 else 0 := by
  rw [work, reading]

theorem work_of_not_reading (closed : x.buffer.consumer ≠ .reading) : x.work = 0 := by
  unfold work
  split
  · exact absurd ‹_› closed
  · rfl

theorem work_le (x : Exchange α) : x.work ≤ 2 * (x.buffer.items.length + 1 + x.buffer.senders) := by
  unfold work
  split <;> omega

theorem reading_of_work (remains : 0 < x.work) : x.buffer.consumer = .reading :=
  Decidable.byContradiction fun closed => by
    rw [work_of_not_reading closed] at remains
    exact absurd remains (Nat.lt_irrefl 0)

theorem not_reading_of_work (nothing : x.work = 0) : x.buffer.consumer ≠ .reading := by
  intro reading
  rw [work_of_reading reading] at nothing
  split at nothing <;> omega

/-- An item less is two steps less. -/
theorem work_took {item : Except Failure (Event α)} {rest : List (Except Failure (Event α))}
    {seen : Bool} (reading : x.buffer.consumer = .reading) (looked : x.seen = some seen)
    (items : x.buffer.items = item :: rest) :
    ({ x with
        buffer := { x.buffer with items := rest }
        seen := none
        received := x.received ++ [item] } : Exchange α).work < x.work := by
  rw [work_of_reading reading, work_of_reading (by exact reading), looked, items]
  simp only [List.length_cons, Option.isSome_none, Option.isSome_some, if_true, Bool.false_eq_true,
    if_false]
  omega

theorem Closing.overflowed (closing : x.Closing) {e : Event α}
    (busy : x.producer = .idle ∨ x.producer = .sending e) : x.buffer.overflowed = true := by
  rcases closing with overflowed | gone | ⟨failure, failing⟩
  · exact overflowed
  · rw [gone] at busy
    exact (busy.elim nofun nofun)
  · rw [failing] at busy
    exact (busy.elim nofun nofun)

/-- What a step changes once no event is accepted any more. -/
structure Closes (x y : Exchange α) : Prop where
  closing : y.Closing
  accepted : y.accepted = x.accepted
  work : y.work ≤ x.work
  ready : x.Ready → y.Ready ∨ y.work < x.work

theorem Effect.closes (effect : Effect move x y) (sound : Sound source capacity x) (closing : x.Closing) :
    Closes x y := by
  cases effect with
  | nothing => exact ⟨closing, rfl, Nat.le_refl _, .inl⟩
  | accepted busy reading flawless room =>
    cases flawless.symm.trans (closing.overflowed busy)
  | rejected busy => exact ⟨.inl (closing.overflowed busy), rfl, Nat.le_refl _, .inl⟩
  | overflowed idle reading full => exact ⟨.inl rfl, rfl, Nat.le_refl _, fun _ => .inl (.inr (.inl rfl))⟩
  | waits busy flawless => cases flawless.symm.trans (closing.overflowed busy)
  | failed busy other reading room =>
    have senders := sound.present (ne_gone_of_failing busy)
    refine ⟨.inr (.inl rfl), rfl, ?_, fun _ => .inl (.inr (.inr (.inr ?_)))⟩
    · rw [work_of_reading reading, work_of_reading (by exact reading)]
      simp only [Buffer.accept, Buffer.dropSender, List.length_append, List.length_singleton]
      omega
    · simp [Buffer.accept, Buffer.dropSender]
  | waitsToFail busy other full => exact ⟨.inr (.inr ⟨_, rfl⟩), rfl, Nat.le_refl _, .inl⟩
  | gone present lost =>
    have senders := sound.present present
    refine ⟨.inr (.inl rfl), rfl, ?_, fun _ => .inl (.inr (.inr (.inl ?_)))⟩
    · by_cases reading : x.buffer.consumer = .reading
      · rw [work_of_reading reading, work_of_reading (by exact reading)]
        show 2 * (x.buffer.items.length + 1 + (x.buffer.senders - 1)) -
          (if x.seen.isSome then 1 else 0) ≤ _
        omega
      · rw [work_of_not_reading (by exact reading)]
        exact Nat.zero_le _
    · show x.buffer.senders - 1 = 0
      rw [senders]
  | looked reading fresh => exact ⟨closing, rfl, by
      rw [work_of_reading reading, work_of_reading (by exact reading)]
      simp [fresh], .inl⟩
  | took reading looked items =>
    have fewer := work_took reading looked items
    exact ⟨closing, rfl, Nat.le_of_lt fewer, fun _ => .inr fewer⟩
  | reported reading looked items =>
    exact ⟨closing, rfl, Nat.zero_le _, fun _ => .inl (.inl Consumer.ended_ne_reading)⟩
  | finished reading looked items senders =>
    exact ⟨closing, rfl, Nat.zero_le _, fun _ => .inl (.inl Consumer.ended_ne_reading)⟩
  | left => exact ⟨closing, rfl, Nat.zero_le _, fun _ => .inl (.inl Consumer.dropped_ne_reading)⟩

/-- A consumer that need not wait comes closer to the end. -/
theorem work_next (sound : Sound source capacity x) (ready : x.Ready) (remains : 0 < x.work) :
    (x.step .next).work < x.work := by
  have reading := reading_of_work remains
  have stepped : x.step .next = x.next := by
    unfold step
    split <;> first | rfl | contradiction
  rw [stepped, next, reading]
  cases looked : x.seen with
  | none =>
    rw [work_of_reading reading, work_of_reading (by exact reading), looked]
    show 2 * (x.buffer.items.length + 1 + x.buffer.senders) - 1 <
      2 * (x.buffer.items.length + 1 + x.buffer.senders) - 0
    omega
  | some seen =>
    show (x.take seen).work < x.work
    cases items : x.buffer.items with
    | cons item rest =>
      have taken : x.take seen = { x with
          buffer := { x.buffer with items := rest }
          seen := none
          received := x.received ++ [item] } := by
        cases seen <;> simp [take, Buffer.drain, Buffer.receive, items]
      rw [taken]
      exact work_took reading looked items
    | nil =>
      have ends : (x.take seen).buffer.consumer = .ended := by
        cases seen with
        | true => simp [take, Buffer.drain, items]
        | false =>
          have senders : x.buffer.senders = 0 := by
            rcases ready with closed | overflowed | senders | present
            · exact absurd reading closed
            · exact absurd items (sound.unseen looked overflowed)
            · exact senders
            · exact absurd items present
          simp [take, Buffer.receive, items, senders]
      rw [work_of_not_reading (by rw [ends]; exact Consumer.ended_ne_reading)]
      exact remains

theorem closes_run (sound : Sound source capacity x) (closing : x.Closing) (moves : List (Move α)) :
    (x.run moves).Closing ∧ (x.run moves).accepted = x.accepted ∧ (x.run moves).work ≤ x.work := by
  induction moves generalizing x with
  | nil => exact ⟨closing, rfl, Nat.le_refl _⟩
  | cons move rest ih =>
    have effect := effect_step x move
    have first := effect.closes sound closing
    obtain ⟨closing', accepted, work⟩ := ih (sound.effect effect) first.closing
    exact ⟨closing', accepted.trans first.accepted, Nat.le_trans work first.work⟩

/-- A step of the consumer counts as soon as it need not wait, whatever comes before and after. -/
theorem work_run_of_ready {moves : List (Move α)} (sound : Sound source capacity x)
    (closing : x.Closing) (ready : x.Ready) (reads : Move.next ∈ moves) :
    (x.run moves).work ≤ x.work - 1 := by
  induction moves generalizing x with
  | nil => cases reads
  | cons move rest ih =>
    have effect := effect_step x move
    have first := effect.closes sound closing
    have sound' := sound.effect effect
    have others := (closes_run sound' first.closing rest).2.2
    show ((x.step move).run rest).work ≤ x.work - 1
    have fewer (fewer : (x.step move).work < x.work) : ((x.step move).run rest).work ≤ x.work - 1 := by
      omega
    rcases List.mem_cons.1 reads with rfl | later
    · rcases Nat.eq_zero_or_pos x.work with nothing | remains
      · have := first.work
        omega
      · exact fewer (work_next sound ready remains)
    · rcases first.ready ready with ready' | less
      · have := ih sound' first.closing ready' later
        have := first.work
        omega
      · exact fewer less

/-- After a sender that waited has tried again the consumer need not wait. -/
theorem ready_resume (sound : Sound source capacity x) (closing : x.Closing) :
    (x.step .resume).Ready := by
  rcases closing with overflowed | gone | ⟨failure, failing⟩
  · exact .inr (.inl (overflowed_run overflowed [.resume]))
  · have unchanged : x.step .resume = x := by unfold step; rw [gone]
    rw [unchanged]
    exact .inr (.inr (.inl (sound.gone gone)))
  · have resumed : x.step .resume = x.fail failure := by unfold step; rw [failing]
    have senders : x.buffer.senders = 1 := sound.present (by rw [failing]; nofun)
    rw [resumed, fail]
    rcases x.buffer.fail_cases failure with ⟨-, failed⟩ | ⟨-, -, full, failed⟩ | ⟨-, -, -, failed⟩
    · rw [failed]
      exact .inr (.inr (.inl (by rw [Buffer.dropSender, senders])))
    · rw [failed]
      refine .inr (.inr (.inr fun none => ?_))
      have sized := sound.sized
      rw [show x.buffer.items = [] from none, List.length_nil] at full
      omega
    · rw [failed]
      exact .inr (.inr (.inr (by simp [Buffer.accept, Buffer.dropSender])))

/-- A round in which a sender that waits is resumed before a step of the consumer counts. -/
theorem work_round {round : List (Move α)} (sound : Sound source capacity x) (closing : x.Closing)
    (fair : [.resume, .next].Sublist round) : (x.run round).work ≤ x.work - 1 := by
  induction round generalizing x with
  | nil => cases fair
  | cons move rest ih =>
    have effect := effect_step x move
    have first := effect.closes sound closing
    have less := first.work
    show ((x.step move).run rest).work ≤ x.work - 1
    cases fair with
    | cons _ later =>
      have := ih (sound.effect effect) first.closing later
      omega
    | cons_cons _ reads =>
      have := work_run_of_ready (sound.effect effect) first.closing (ready_resume sound closing)
        (List.singleton_sublist.1 reads)
      omega

/-- Rounds that count bring the consumer to the end. -/
theorem work_rounds {P : Exchange α → Prop} {rounds : List (List (Move α))}
    (counts : ∀ x, P x → ∀ round ∈ rounds, P (x.run round) ∧ (x.run round).work ≤ x.work - 1)
    (holds : P x) : (x.run rounds.flatten).work ≤ x.work - rounds.length := by
  induction rounds generalizing x with
  | nil => exact Nat.le_refl _
  | cons round rest ih =>
    obtain ⟨kept, less⟩ := counts x holds round List.mem_cons_self
    have others := ih (fun y holds round member => counts y holds round (List.mem_cons_of_mem _ member)) kept
    rw [List.flatten_cons, run_append, List.length_cons]
    omega

/-! ## What is delivered -/

/-- Only the consumer itself goes away. -/
theorem Effect.dropped_cases (effect : Effect move x y) (dropped : y.buffer.consumer = .dropped) :
    x.buffer.consumer = .dropped ∨ move = .leave := by
  cases effect <;> first | exact .inl dropped | exact .inr rfl | cases dropped

theorem stays_run {moves : List (Move α)} (stays : Move.leave ∉ moves)
    (present : x.buffer.consumer ≠ .dropped) : (x.run moves).buffer.consumer ≠ .dropped := by
  induction moves generalizing x with
  | nil => exact present
  | cons move rest ih =>
    obtain ⟨other, stays⟩ := not_or.1 (mt List.mem_cons.2 stays)
    refine ih stays fun dropped => ?_
    rcases (effect_step x move).dropped_cases dropped with before | leaves
    · exact present before
    · exact other leaves.symm

/-! ## After a failure -/

/-- A failure that waits or is queued was passed to the sender. -/
theorem Effect.failure_cases {failure : Failure} (effect : Effect move x y)
    (owed : y.failure = some failure ∨ y.producer = .failing failure) :
    (x.failure = some failure ∨ x.producer = .failing failure) ∨ move = .fail failure := by
  cases effect with
  | failed busy =>
    obtain rfl := Option.some.inj (owed.resolve_right nofun)
    exact busy.elim (fun given => .inr given.2) fun failing => .inl (.inr failing)
  | waitsToFail busy =>
    rcases owed with before | failing
    · exact .inl (.inl before)
    · cases failing
      exact busy.elim (fun given => .inr given.2) fun failing => .inl (.inr failing)
  | accepted | rejected | waits | gone => exact .inl (.inl (owed.resolve_right nofun))
  | _ => exact .inl owed

theorem failure_run {failure : Failure} {moves : List (Move α)}
    (owed : (x.run moves).failure = some failure ∨ (x.run moves).producer = .failing failure) :
    (x.failure = some failure ∨ x.producer = .failing failure) ∨ .fail failure ∈ moves := by
  induction moves generalizing x with
  | nil => exact .inl owed
  | cons move rest ih =>
    rcases ih owed with before | later
    · refine ((effect_step x move).failure_cases before).imp_right fun given => ?_
      rw [given]
      exact List.mem_cons_self
    · exact .inr (List.mem_cons_of_mem _ later)

/-- A failure was passed to the sender of a stream that had not overflowed. -/
structure Failing (failure : Failure) (x : Exchange α) : Prop where
  flawless : x.buffer.overflowed = false
  last : x.producer = .failing failure ∨
    x.producer = .gone ∧ (x.failure = some failure ∨ x.buffer.consumer = .dropped)
  only : ∀ given, x.failure = some given → given = failure

theorem Failing.closing {failure : Failure} (failing : x.Failing failure) : x.Closing :=
  .inr (failing.last.elim (fun waits => .inr ⟨failure, waits⟩) fun gone => .inl gone.1)

theorem Effect.failing {failure : Failure} (effect : Effect move x y) (sound : Sound source capacity x)
    (other : failure.isOverflow = false) (failing : x.Failing failure) : y.Failing failure := by
  have waits : ∀ {p}, x.producer = p → p ≠ .gone → p = .failing failure := fun own remains =>
    own.symm.trans (failing.last.resolve_right fun gone => remains (own.symm.trans gone.1))
  -- the producer waits to fail or is gone, so that of its steps only those of the failure are left
  cases effect with
  | nothing => exact failing
  | accepted busy => rcases busy with busy | busy <;> cases waits busy nofun
  | rejected busy => rcases busy with busy | busy <;> cases waits busy nofun
  | overflowed idle => cases waits idle nofun
  | waits busy => rcases busy with busy | busy <;> cases waits busy nofun
  | failed busy =>
    rcases busy with ⟨busy, -⟩ | busy <;> cases waits busy nofun
    exact ⟨failing.flawless, .inr ⟨rfl, .inl rfl⟩, fun given same => (Option.some.inj same).symm⟩
  | waitsToFail busy =>
    rcases busy with ⟨busy, -⟩ | busy <;> cases waits busy nofun
    exact ⟨failing.flawless, .inl rfl, failing.only⟩
  | gone present lost =>
    have closed : x.buffer.consumer ≠ .reading := by
      rcases lost with idle | closed | ⟨last, own, overflow⟩
      · cases waits idle nofun
      · exact closed
      · cases waits own nofun
        cases other.symm.trans overflow
    have dropped : x.buffer.consumer = .dropped := by
      cases consumer : x.buffer.consumer with
      | reading => exact absurd consumer closed
      | ended =>
        rcases (sound.ended consumer).2 with overflowed | gone
        · cases failing.flawless.symm.trans overflowed
        · exact absurd gone present
      | dropped => rfl
    exact ⟨failing.flawless, .inr ⟨rfl, .inr dropped⟩, failing.only⟩
  | looked | took => exact ⟨failing.flawless, failing.last, failing.only⟩
  | reported reading | finished reading =>
    refine ⟨failing.flawless, failing.last.imp_right fun gone => ⟨gone.1, .inl ?_⟩, failing.only⟩
    exact gone.2.resolve_right fun dropped => by cases reading.symm.trans dropped
  | left =>
    exact ⟨failing.flawless, failing.last.imp_right fun gone => ⟨gone.1, .inr rfl⟩, failing.only⟩

theorem failing_run {failure : Failure} (sound : Sound source capacity x)
    (other : failure.isOverflow = false) (failing : x.Failing failure) (moves : List (Move α)) :
    (x.run moves).Failing failure := by
  induction moves generalizing x with
  | nil => exact failing
  | cons move rest ih =>
    have effect := effect_step x move
    exact ih (sound.effect effect) (effect.failing sound other failing)

/-- A failure that is passed to the sender waits or is queued, and nothing else changes. -/
theorem failing_step {failure : Failure} (sound : Sound source capacity x)
    (other : failure.isOverflow = false) (idle : x.producer = .idle)
    (flawless : x.buffer.overflowed = false) (reading : x.buffer.consumer = .reading) :
    (x.step (.fail failure)).Failing failure ∧ (x.step (.fail failure)).accepted = x.accepted ∧
      (x.step (.fail failure)).buffer.consumer = .reading ∧
      (x.step (.fail failure)).work ≤ 2 * (x.buffer.items.length + 2) := by
  have present : x.producer ≠ .gone := by rw [idle]; nofun
  have senders := sound.present present
  have unfailed : ∀ given, x.failure = some given → given = failure := fun given queued => by
    cases (sound.unfailed present).symm.trans queued
  have stepped : x.step (.fail failure) = x.fail failure := by unfold step; rw [idle]
  rw [stepped, fail]
  rcases x.buffer.fail_cases failure with ⟨lost, failed⟩ | ⟨-, -, -, failed⟩ | ⟨-, -, -, failed⟩
  · rcases lost with overflow | closed
    · cases other.symm.trans overflow
    · exact absurd reading closed
  · rw [failed]
    refine ⟨⟨flawless, .inl rfl, unfailed⟩, rfl, reading, Nat.le_trans (work_le _) ?_⟩
    show 2 * (x.buffer.items.length + 1 + x.buffer.senders) ≤ _
    omega
  · rw [failed]
    have queued : (if x.buffer.items.length < (x.buffer.accept (.error failure)).dropSender.items.length
        then some failure else x.failure) = some failure := by
      simp [Buffer.accept, Buffer.dropSender]
    refine ⟨⟨flawless, .inr ⟨rfl, .inl queued⟩, fun given same => ?_⟩, rfl, reading,
      Nat.le_trans (work_le _) ?_⟩
    · exact (Option.some.inj (queued.symm.trans same)).symm
    · simp only [Buffer.accept, Buffer.dropSender, List.length_append, List.length_singleton]
      omega

/-- What the consumer of a stream that failed gets: the events, and the failure if it stays. -/
theorem Failing.owed {failure : Failure} (sound : Sound source capacity x)
    (failing : x.Failing failure) :
    x.owed <+: x.accepted.map .ok ++ [.error failure] ∧
      (x.buffer.consumer = .ended → x.owed = x.accepted.map .ok ++ [.error failure]) := by
  have flawless := failing.flawless
  cases last : x.failure with
  | none =>
    have owed : x.owed = x.accepted.map .ok := by simp [Exchange.owed, queued, flawless, last]
    rw [owed]
    refine ⟨List.prefix_append _ _, fun ended => ?_⟩
    rcases (sound.ended ended).2 with overflowed | gone
    · cases flawless.symm.trans overflowed
    · rcases failing.last with failing | ⟨-, own | dropped⟩
      · cases gone.symm.trans failing
      · cases last.symm.trans own
      · cases ended.symm.trans dropped
  | some given =>
    obtain rfl := failing.only given last
    have owed : x.owed = x.accepted.map .ok ++ [.error given] := by
      simp [Exchange.owed, queued, flawless, last]
    rw [owed]
    exact ⟨List.prefix_rfl, fun _ => rfl⟩

/-! ## Every exchange -/

/-- The consumer has got to the end and gets nothing more. -/
def AtEnd (x : Exchange α) : Prop :=
  x.buffer.consumer = .ended ∧ x.buffer.next = (.finished, x.buffer)

/-- A consumer that stays is at the end when no steps are left to it. -/
theorem atEnd_of_work (present : x.buffer.consumer ≠ .dropped) (nothing : x.work = 0) : x.AtEnd := by
  have closed := not_reading_of_work nothing
  have ended : x.buffer.consumer = .ended := by
    cases consumer : x.buffer.consumer with
    | reading => exact absurd consumer closed
    | ended => rfl
    | dropped => exact absurd consumer present
  exact ⟨ended, Buffer.next_of_not_reading closed⟩

namespace Sound

variable {e : Event α} {failure : Failure} {moves : List (Move α)} {rounds : List (List (Move α))}

/-- A failure that is delivered after an idle producer went on was passed to the sender since. -/
theorem passed {moves : List (Move α)} {given : Failure} (sound : Sound source capacity x)
    (idle : x.producer = .idle) (queued : (x.run moves).failure = some given) :
    given.isOverflow = false ∧ .fail given ∈ moves := by
  refine ⟨(sound.run moves).other given (.inr queued), ?_⟩
  rcases failure_run (.inl queued) with (before | before) | passed
  · have unfailed : x.failure = none := sound.unfailed (by rw [idle]; nofun)
    cases unfailed.symm.trans before
  · cases idle.symm.trans before
  · exact passed

/-- After an overflow every round counts in which the consumer takes a step. -/
theorem reports (sound : Sound source capacity x) (idle : x.producer = .idle)
    (rejected : (x.buffer.push e).1 = .error (.bufferOverflow source (max capacity 1)))
    (present : x.buffer.consumer ≠ .dropped) (stays : .leave ∉ rounds.flatten)
    (reads : ∀ round ∈ rounds, .next ∈ round)
    (enough : 2 * (x.buffer.items.length + 2) ≤ rounds.length) :
    (x.run (.push e :: rounds.flatten)).AtEnd ∧
      ∃ failure : Option Failure,
        (∀ given ∈ failure, given.isOverflow = false ∧ .fail given ∈ rounds.flatten) ∧
        (x.run (.push e :: rounds.flatten)).received = x.accepted.map .ok ++
          failure.toList.map .error ++ [.error (.bufferOverflow source (max capacity 1))] := by
  have sound' := sound.effect (effect_step x (.push e))
  rw [run_cons]
  rw [step_push_of_rejected idle rejected] at sound' ⊢
  generalize noted : { x with buffer := { x.buffer with overflowed := true } } = z at sound' ⊢
  have overflowed : z.buffer.overflowed = true := by rw [← noted]
  have accepted : z.accepted = x.accepted := by rw [← noted]
  have finished : (z.run rounds.flatten).work ≤ z.work - rounds.length := by
    refine work_rounds (P := fun y => Sound source capacity y ∧ y.buffer.overflowed = true)
      (fun y holds round member => ?_) ⟨sound', overflowed⟩
    exact ⟨⟨holds.1.run round, overflowed_run holds.2 round⟩,
      work_run_of_ready holds.1 (.inl holds.2) (.inr (.inl holds.2)) (reads round member)⟩
  have work : z.work ≤ 2 * (x.buffer.items.length + 2) := by
    have senders : x.buffer.senders = 1 := sound.present (by rw [idle]; nofun)
    have most := z.work_le
    rw [← noted] at most ⊢
    rw [senders] at most
    exact most
  have stayed : (z.run rounds.flatten).buffer.consumer ≠ .dropped :=
    stays_run stays (by rw [← noted]; exact present)
  have atEnd := atEnd_of_work stayed (by omega)
  have last := sound'.run rounds.flatten
  refine ⟨atEnd, (z.run rounds.flatten).failure, fun given member => ?_, ?_⟩
  · exact sound'.passed (by rw [← noted, idle]) (Option.mem_def.1 member)
  · rw [(last.ended atEnd.1).1, owed, if_pos (overflowed_run overflowed _), queued,
      (closes_run sound' (.inl overflowed) _).2.1, last.overflowFailure, accepted]

/-- A failure that is passed to the sender is received after the events. -/
theorem fails (sound : Sound source capacity x) (other : failure.isOverflow = false)
    (idle : x.producer = .idle) (flawless : x.buffer.overflowed = false)
    (reading : x.buffer.consumer = .reading) :
    (x.run (.fail failure :: moves)).received <+: x.accepted.map .ok ++ [.error failure] ∧
      ((x.run (.fail failure :: moves)).buffer.consumer = .ended →
        (x.run (.fail failure :: moves)).received = x.accepted.map .ok ++ [.error failure]) := by
  have sound' := sound.effect (effect_step x (.fail failure))
  obtain ⟨failing, accepted, -⟩ := failing_step sound other idle flawless reading
  have last := sound'.run moves
  have owed := (failing_run sound' other failing moves).owed last
  rw [(closes_run sound' failing.closing moves).2.1, accepted] at owed
  exact ⟨last.received_prefix.trans owed.1, fun ended => (last.ended ended).1.trans (owed.2 ended)⟩

/-- After a failure every round counts in which a sender that waits is resumed before the consumer takes
a step. -/
theorem ends (sound : Sound source capacity x) (other : failure.isOverflow = false)
    (idle : x.producer = .idle) (flawless : x.buffer.overflowed = false)
    (reading : x.buffer.consumer = .reading) (stays : .leave ∉ rounds.flatten)
    (fair : ∀ round ∈ rounds, [.resume, .next].Sublist round)
    (enough : 2 * (x.buffer.items.length + 2) ≤ rounds.length) :
    (x.run (.fail failure :: rounds.flatten)).AtEnd := by
  have sound' := sound.effect (effect_step x (.fail failure))
  obtain ⟨failing, -, reading', work⟩ := failing_step sound other idle flawless reading
  have finished : ((x.step (.fail failure)).run rounds.flatten).work ≤
      (x.step (.fail failure)).work - rounds.length := by
    refine work_rounds (P := fun y => Sound source capacity y ∧ y.Closing)
      (fun y holds round member => ?_) ⟨sound', failing.closing⟩
    exact ⟨⟨holds.1.run round, (closes_run holds.1 holds.2 round).1⟩,
      work_round holds.1 holds.2 (fair round member)⟩
  have stayed : ((x.step (.fail failure)).run rounds.flatten).buffer.consumer ≠ .dropped :=
    stays_run stays (by rw [reading']; nofun)
  rw [run_cons]
  exact atEnd_of_work stayed (by omega)

end Sound

section Jobs

end Jobs

end StreamOperator.Exchange
