import StreamOperator.Proofs.Event.Exchange

/-!
# Answers to the producer

What a producer is told of an event that it offers depends on whether an earlier push found the buffer
full, on whether there is space now and on whether anybody reads (`Exchange.Answers`). Only a push
overflows a buffer, and only a full one (`Exchange.overflowed_run_iff`): an event that is sent waits for
space instead, and is accepted once there is some.
-/

set_option autoImplicit false

namespace StreamOperator.Exchange

variable {α : Type} {source : String} {capacity : Nat} {x y : Exchange α} {move : Move α}

theorem run_append (x : Exchange α) (first rest : List (Move α)) :
    x.run (first ++ rest) = (x.run first).run rest := List.foldl_append

theorem run_cons (x : Exchange α) (move : Move α) (rest : List (Move α)) :
    x.run (move :: rest) = (x.step move).run rest := rfl

theorem step_push (idle : x.producer = .idle) (e : Event α) : x.step (.push e) = x.push e := by
  unfold step
  rw [idle]

/-- The producer is free to push, and finds the buffer full. -/
structure Full (x : Exchange α) : Prop where
  idle : x.producer = .idle
  reading : x.buffer.consumer = .reading
  full : x.buffer.capacity ≤ x.buffer.items.length

/-- Only a push notes an overflow, and nothing takes it back. -/
theorem Effect.overflowed_cases (effect : Effect move x y) :
    y.buffer.overflowed = x.buffer.overflowed ∨
      ((∃ e, move = .push e) ∧ x.Full) ∧ y.buffer.overflowed = true := by
  cases effect with
  | overflowed idle reading full => exact .inr ⟨⟨⟨_, rfl⟩, idle, reading, full⟩, rfl⟩
  | _ => exact .inl rfl

theorem overflowed_run (overflowed : x.buffer.overflowed = true) (moves : List (Move α)) :
    (x.run moves).buffer.overflowed = true := by
  induction moves generalizing x with
  | nil => exact overflowed
  | cons move rest ih =>
    refine ih ?_
    rcases (effect_step x move).overflowed_cases with same | ⟨-, noted⟩
    · rw [same, overflowed]
    · exact noted

/-- A push that finds the buffer full is rejected, and this is noted. -/
theorem step_push_of_full (full : x.Full) (e : Event α) :
    x.step (.push e) = { x with buffer := { x.buffer with overflowed := true } } := by
  rw [step_push full.idle, push]
  rcases x.buffer.offer_cases e with ⟨overflowed, pushed, -⟩ | ⟨-, closed, -⟩ | ⟨-, -, -, pushed, -⟩ |
    ⟨-, -, room, -⟩
  · rw [pushed, ← overflowed]
  · exact absurd full.reading closed
  · rw [pushed]
  · exact absurd full.full (Nat.not_le.2 room)

theorem Sound.overflowFailure (sound : Sound source capacity x) :
    x.buffer.overflowFailure = .bufferOverflow source (max capacity 1) := by
  rw [Buffer.overflowFailure, sound.named, sound.sized]

theorem Sound.closedFailure (sound : Sound source capacity x) :
    x.buffer.closedFailure = .subscriptionClosed source := by
  rw [Buffer.closedFailure, sound.named]

/-- A push that is rejected for an overflow notes it, if that was not done before. -/
theorem step_push_of_rejected {e : Event α} {source' : String} {capacity' : Nat}
    (idle : x.producer = .idle)
    (rejected : (x.buffer.push e).1 = .error (.bufferOverflow source' capacity')) :
    x.step (.push e) = { x with buffer := { x.buffer with overflowed := true } } := by
  rcases x.buffer.offer_cases e with ⟨overflowed, pushed, -⟩ | ⟨-, -, pushed, -⟩ | ⟨-, reading, full, -⟩ |
    ⟨-, -, -, pushed, -⟩
  · rw [step_push idle, push, pushed, ← overflowed]
  · rw [pushed] at rejected
    cases Except.error.inj rejected
  · exact step_push_of_full ⟨idle, reading, full⟩ e
  · rw [pushed] at rejected
    cases rejected

/-- What the producer is told of an event that it offers, by whether there was an overflow. -/
structure Answers (source : String) (capacity : Nat) (overflow : Prop) (x : Exchange α) (e : Event α) :
    Prop where
  /-- With space an event is accepted, be it pushed or sent. -/
  pushAccepted : (x.buffer.push e).1 = .ok () ↔
    ¬overflow ∧ x.buffer.consumer = .reading ∧ x.buffer.items.length < max capacity 1
  sendAccepted : (x.buffer.send e).1 = some (.ok ()) ↔
    ¬overflow ∧ x.buffer.consumer = .reading ∧ x.buffer.items.length < max capacity 1
  /-- A push is rejected for an overflow if there was one, and if the buffer is full now. -/
  pushOverflow : (x.buffer.push e).1 = .error (.bufferOverflow source (max capacity 1)) ↔
    overflow ∨ x.buffer.consumer = .reading ∧ x.buffer.items.length = max capacity 1
  /-- An event that is sent is rejected for an overflow only if there was one; it waits for space in a
  buffer that is full now. -/
  sendOverflow : (x.buffer.send e).1 = some (.error (.bufferOverflow source (max capacity 1))) ↔ overflow
  sendWaits : (x.buffer.send e).1 = none ↔
    ¬overflow ∧ x.buffer.consumer = .reading ∧ x.buffer.items.length = max capacity 1
  /-- Without an overflow the producer is told that nobody reads any more. -/
  pushClosed : (x.buffer.push e).1 = .error (.subscriptionClosed source) ↔
    ¬overflow ∧ x.buffer.consumer ≠ .reading
  sendClosed : (x.buffer.send e).1 = some (.error (.subscriptionClosed source)) ↔
    ¬overflow ∧ x.buffer.consumer ≠ .reading

/-- Every exchange answers by whether it notes an overflow. -/
theorem Sound.answers (sound : Sound source capacity x) (e : Event α) :
    Answers source capacity (x.buffer.overflowed = true) x e := by
  have bounded : x.buffer.items.length ≤ max capacity 1 := sound.sized ▸ sound.bounded
  rcases x.buffer.offer_cases e with ⟨overflowed, pushed, sent⟩ | ⟨flawless, closed, pushed, sent⟩ |
    ⟨flawless, reading, full, pushed, sent⟩ | ⟨flawless, reading, room, pushed, sent⟩
  · rw [sound.overflowFailure] at pushed sent
    constructor <;> simp [pushed, sent, overflowed]
  · rw [sound.closedFailure] at pushed sent
    constructor <;> simp [pushed, sent, flawless, closed]
  · rw [sound.sized] at full
    have filled := Nat.le_antisymm bounded full
    rw [sound.overflowFailure] at pushed
    constructor <;> simp [pushed, sent, flawless, reading, filled]
  · rw [sound.sized] at room
    have unfilled := Nat.ne_of_lt room
    constructor <;> simp [pushed, sent, flawless, reading, room, unfilled]

/-! ## What becomes of an event -/

end StreamOperator.Exchange
