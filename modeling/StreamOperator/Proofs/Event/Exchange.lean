import StreamOperator.Event.Buffer

/-!
# Exchanges over a buffer

A buffer between one producer and the consumer, who take their steps in any order. A step is what either
does up to where it waits. A sender that waits for space is resumed later (`Move.resume`). The consumer
takes two steps for an item: it looks whether there was an overflow, and then takes what comes next,
waiting for it or not by what it saw (`Buffer.receive`, `Buffer.drain`). In between the producer may do
anything. What a step can do is said once (`Exchange.Effect`), and what holds of every exchange follows
from it (`Exchange.Sound`).
-/

set_option autoImplicit false

namespace StreamOperator

variable {α : Type}

namespace Failure

def isOverflow : Failure → Bool
  | .bufferOverflow _ _ => true
  | _ => false

end Failure

namespace Consumer

theorem ended_ne_reading : ended ≠ reading := by decide

theorem dropped_ne_reading : dropped ≠ reading := by decide

end Consumer

namespace Buffer

/-- What a consumer gets that waits for the next item. -/
def receive (b : Buffer α) : Delivery α × Buffer α :=
  match b.items with
  | item :: rest => (.item item, { b with items := rest })
  | [] => if b.senders = 0 then (.finished, { b with consumer := .ended }) else (.pending, b)

/-- What a consumer gets that does not wait, since there was an overflow. -/
def drain (b : Buffer α) : Delivery α × Buffer α :=
  match b.items with
  | item :: rest => (.item item, { b with items := rest })
  | [] => (.item (.error b.overflowFailure), { b with consumer := .ended })

theorem next_of_not_reading {b : Buffer α} (closed : b.consumer ≠ .reading) :
    b.next = (.finished, b) := by
  simp [next, isClosed, closed]

theorem isClosed_eq_false {b : Buffer α} : b.isClosed = false ↔ b.consumer = .reading := by
  simp [isClosed]

theorem isFull_eq_true {b : Buffer α} : b.isFull = true ↔ b.capacity ≤ b.items.length := by
  simp [isFull]

theorem isFull_eq_false {b : Buffer α} : b.isFull = false ↔ b.items.length < b.capacity := by
  simp [isFull]

/-- An event that is offered is rejected after an overflow and by a buffer that nobody reads. A full buffer
is overflowed by a push and lets a sender wait, and where there is space the event is accepted. -/
theorem offer_cases (b : Buffer α) (e : Event α) :
    (b.overflowed = true ∧ b.push e = (.error b.overflowFailure, b) ∧
      b.send e = (some (.error b.overflowFailure), b)) ∨
    (b.overflowed = false ∧ b.consumer ≠ .reading ∧ b.push e = (.error b.closedFailure, b) ∧
      b.send e = (some (.error b.closedFailure), b)) ∨
    (b.overflowed = false ∧ b.consumer = .reading ∧ b.capacity ≤ b.items.length ∧
      b.push e = (.error b.overflowFailure, { b with overflowed := true }) ∧ b.send e = (none, b)) ∨
    (b.overflowed = false ∧ b.consumer = .reading ∧ b.items.length < b.capacity ∧
      b.push e = (.ok (), b.accept (.ok e)) ∧ b.send e = (some (.ok ()), b.accept (.ok e))) := by
  rw [ne_eq, ← isClosed_eq_false, ← isFull_eq_false, ← isFull_eq_true]
  cases flawed : b.overflowed <;> cases closed : b.isClosed <;> cases full : b.isFull <;>
    simp [push, send, flawed, closed, full]

/-- A failure that ends a subscription is dropped, waits or is accepted. -/
theorem fail_cases (b : Buffer α) (failure : Failure) :
    ((failure.isOverflow = true ∨ b.consumer ≠ .reading) ∧ b.fail failure = some b.dropSender) ∨
    (failure.isOverflow = false ∧ b.consumer = .reading ∧ b.capacity ≤ b.items.length ∧
      b.fail failure = none) ∨
    (failure.isOverflow = false ∧ b.consumer = .reading ∧ b.items.length < b.capacity ∧
      b.fail failure = some (b.accept (.error failure)).dropSender) := by
  have other (other : failure.isOverflow = false) : b.fail failure =
      if b.isClosed then some b.dropSender else if b.isFull then none
        else some (b.accept (.error failure)).dropSender := by
    cases failure <;> first | rfl | cases other
  cases kind : failure.isOverflow with
  | true => 
    have dropped : b.fail failure = some b.dropSender := by
      cases failure <;> first | rfl | cases kind
    exact .inl ⟨.inl rfl, dropped⟩
  | false =>
    rw [other kind, ne_eq, ← isClosed_eq_false, ← isFull_eq_false, ← isFull_eq_true]
    cases closed : b.isClosed <;> cases full : b.isFull <;> simp

end Buffer

/-! ## Exchanges -/

/-- What the producer is at. -/
inductive Producer (α : Type) where
  | idle
  /-- It waits for space for an event. -/
  | sending (e : Event α)
  /-- It waits for space for its last failure. -/
  | failing (failure : Failure)
  | gone

structure Exchange (α : Type) where
  buffer : Buffer α
  producer : Producer α := .idle
  /-- Whether there was an overflow when the consumer looked, if it has not taken anything since. -/
  seen : Option Bool := none
  /-- The events that were accepted. -/
  accepted : List (Event α) := []
  /-- The failure that has got a place in the queue. -/
  failure : Option Failure := none
  /-- What the consumer got. -/
  received : List (Except Failure (Event α)) := []

namespace Exchange

inductive Move (α : Type) where
  | push (e : Event α)
  | send (e : Event α)
  | fail (failure : Failure)
  | drop
  /-- A sender that waits tries again. -/
  | resume
  /-- The consumer looks, or takes what comes next. -/
  | next
  /-- The consumer goes away. -/
  | leave

def start (source : String) (capacity : Nat) : Exchange α := { buffer := .create source capacity }

def push (x : Exchange α) (e : Event α) : Exchange α :=
  match x.buffer.push e with
  | (.ok (), b) => { x with buffer := b, accepted := x.accepted ++ [e] }
  | (.error _, b) => { x with buffer := b }

def send (x : Exchange α) (e : Event α) : Exchange α :=
  match x.buffer.send e with
  | (some (.ok ()), b) => { x with buffer := b, producer := .idle, accepted := x.accepted ++ [e] }
  | (some (.error _), b) => { x with buffer := b, producer := .idle }
  | (none, b) => { x with buffer := b, producer := .sending e }

def fail (x : Exchange α) (failure : Failure) : Exchange α :=
  match x.buffer.fail failure with
  | some b => { x with
      buffer := b
      producer := .gone
      failure := if x.buffer.items.length < b.items.length then some failure else x.failure }
  | none => { x with producer := .failing failure }

def drop (x : Exchange α) : Exchange α :=
  { x with buffer := x.buffer.dropSender, producer := .gone }

/-- The consumer takes what comes next, by what it saw. -/
def take (x : Exchange α) (seen : Bool) : Exchange α :=
  match if seen then x.buffer.drain else x.buffer.receive with
  | (.item content, b) => { x with buffer := b, seen := none, received := x.received ++ [content] }
  | (.finished, b) => { x with buffer := b, seen := none }
  | (.pending, _) => x

def next (x : Exchange α) : Exchange α :=
  match x.buffer.consumer, x.seen with
  | .reading, none => { x with seen := some x.buffer.overflowed }
  | .reading, some seen => x.take seen
  | _, _ => x

def leave (x : Exchange α) : Exchange α := { x with buffer := x.buffer.dropConsumer, seen := none }

/-- One step. A producer that waits or is gone does nothing else. -/
def step (x : Exchange α) (move : Move α) : Exchange α :=
  match move, x.producer with
  | .push e, .idle => x.push e
  | .send e, .idle => x.send e
  | .fail failure, .idle => x.fail failure
  | .drop, .idle => x.drop
  | .resume, .sending e => x.send e
  | .resume, .failing failure => x.fail failure
  | .next, _ => x.next
  | .leave, _ => x.leave
  | _, _ => x

def run (x : Exchange α) (moves : List (Move α)) : Exchange α := moves.foldl step x

/-- The events that the consumer got. -/
def delivered (x : Exchange α) : List (Event α) := x.received.filterMap Except.toOption

/-- What was put into the queue. -/
def queued (x : Exchange α) : List (Except Failure (Event α)) :=
  x.accepted.map .ok ++ x.failure.toList.map .error

/-- What a consumer gets that stays to the end. -/
def owed (x : Exchange α) : List (Except Failure (Event α)) :=
  x.queued ++ if x.buffer.overflowed then [.error x.buffer.overflowFailure] else []

/-! ## What a step can do -/

/-- One of the changes that a step makes. -/
inductive Effect : Move α → Exchange α → Exchange α → Prop where
  | nothing {move : Move α} (x : Exchange α) : Effect move x x
  | accepted {move : Move α} {x : Exchange α} {e : Event α}
      (busy : x.producer = .idle ∨ x.producer = .sending e) (reading : x.buffer.consumer = .reading)
      (flawless : x.buffer.overflowed = false) (room : x.buffer.items.length < x.buffer.capacity) :
      Effect move x { x with
        buffer := x.buffer.accept (.ok e), producer := .idle, accepted := x.accepted ++ [e] }
  /-- An event that was sent is rejected. -/
  | rejected {move : Move α} {x : Exchange α} {e : Event α}
      (busy : x.producer = .idle ∨ x.producer = .sending e) :
      Effect move x { x with producer := .idle }
  | overflowed {x : Exchange α} {e : Event α} (idle : x.producer = .idle)
      (reading : x.buffer.consumer = .reading) (full : x.buffer.capacity ≤ x.buffer.items.length) :
      Effect (.push e) x { x with buffer := { x.buffer with overflowed := true } }
  | waits {move : Move α} {x : Exchange α} {e : Event α}
      (busy : x.producer = .idle ∨ x.producer = .sending e)
      (flawless : x.buffer.overflowed = false) : Effect move x { x with producer := .sending e }
  | failed {move : Move α} {x : Exchange α} {failure : Failure}
      (busy : x.producer = .idle ∧ move = .fail failure ∨ x.producer = .failing failure)
      (other : failure.isOverflow = false)
      (reading : x.buffer.consumer = .reading) (room : x.buffer.items.length < x.buffer.capacity) :
      Effect move x { x with
        buffer := (x.buffer.accept (.error failure)).dropSender
        producer := .gone
        failure := some failure }
  | waitsToFail {move : Move α} {x : Exchange α} {failure : Failure}
      (busy : x.producer = .idle ∧ move = .fail failure ∨ x.producer = .failing failure)
      (other : failure.isOverflow = false)
      (full : x.buffer.capacity ≤ x.buffer.items.length) :
      Effect move x { x with producer := .failing failure }
  /-- The producer goes away and leaves nothing behind. -/
  | gone {move : Move α} {x : Exchange α} (present : x.producer ≠ .gone)
      (lost : x.producer = .idle ∨ x.buffer.consumer ≠ .reading ∨
        ∃ failure, x.producer = .failing failure ∧ failure.isOverflow = true) :
      Effect move x x.drop
  | looked {x : Exchange α} (reading : x.buffer.consumer = .reading) (fresh : x.seen = none) :
      Effect .next x { x with seen := some x.buffer.overflowed }
  | took {x : Exchange α} {item : Except Failure (Event α)} {rest : List (Except Failure (Event α))}
      {seen : Bool} (reading : x.buffer.consumer = .reading) (looked : x.seen = some seen)
      (items : x.buffer.items = item :: rest) :
      Effect .next x { x with
        buffer := { x.buffer with items := rest }, seen := none, received := x.received ++ [item] }
  | reported {x : Exchange α} (reading : x.buffer.consumer = .reading) (looked : x.seen = some true)
      (items : x.buffer.items = []) :
      Effect .next x { x with
        buffer := { x.buffer with consumer := .ended }
        seen := none
        received := x.received ++ [.error x.buffer.overflowFailure] }
  | finished {x : Exchange α} (reading : x.buffer.consumer = .reading) (looked : x.seen = some false)
      (items : x.buffer.items = []) (senders : x.buffer.senders = 0) :
      Effect .next x { x with buffer := { x.buffer with consumer := .ended }, seen := none }
  | left (x : Exchange α) : Effect .leave x x.leave

variable {x y : Exchange α} {move : Move α}

theorem ne_gone_of_sending {e : Event α} (busy : x.producer = .idle ∨ x.producer = .sending e) :
    x.producer ≠ .gone := by
  rcases busy with busy | busy <;> rw [busy] <;> nofun

theorem effect_push (idle : x.producer = .idle) (e : Event α) :
    Effect (.push e) x (x.push e) := by
  unfold push
  rcases x.buffer.offer_cases e with ⟨-, pushed, -⟩ | ⟨-, -, pushed, -⟩ | ⟨-, reading, full, pushed, -⟩ |
    ⟨flawless, reading, room, pushed, -⟩
  · rw [pushed]
    exact .nothing x
  · rw [pushed]
    exact .nothing x
  · rw [pushed]
    exact .overflowed idle reading full
  · rw [pushed]
    have effect : Effect (.push e) x _ := .accepted (e := e) (.inl idle) reading flawless room
    rwa [← idle] at effect

theorem effect_send {e : Event α} (busy : x.producer = .idle ∨ x.producer = .sending e) :
    Effect move x (x.send e) := by
  unfold send
  rcases x.buffer.offer_cases e with ⟨-, -, sent⟩ | ⟨-, -, -, sent⟩ | ⟨flawless, -, -, -, sent⟩ |
    ⟨flawless, reading, room, -, sent⟩
  · rw [sent]
    exact .rejected busy
  · rw [sent]
    exact .rejected busy
  · rw [sent]
    exact .waits busy flawless
  · rw [sent]
    exact .accepted busy reading flawless room

theorem ne_gone_of_failing {failure : Failure}
    (busy : x.producer = .idle ∧ move = .fail failure ∨ x.producer = .failing failure) :
    x.producer ≠ .gone := by
  rcases busy with ⟨busy, -⟩ | busy <;> rw [busy] <;> nofun

theorem effect_fail {failure : Failure}
    (busy : x.producer = .idle ∧ move = .fail failure ∨ x.producer = .failing failure) :
    Effect move x (x.fail failure) := by
  unfold fail
  rcases x.buffer.fail_cases failure with ⟨lost, failed⟩ | ⟨other, reading, full, failed⟩ |
    ⟨other, reading, room, failed⟩
  · have reason : x.producer = .idle ∨ x.buffer.consumer ≠ .reading ∨
        ∃ failure, x.producer = .failing failure ∧ failure.isOverflow = true := by
      rcases lost with overflow | closed
      · exact busy.imp And.left fun failing => .inr ⟨failure, failing, overflow⟩
      · exact .inr (.inl closed)
    have effect : Effect move x _ := .gone (ne_gone_of_failing busy) reason
    simpa [failed, drop, Buffer.dropSender] using effect
  · rw [failed]
    exact .waitsToFail busy other full
  · have effect : Effect move x _ := .failed busy other reading room
    simpa [failed, Buffer.dropSender, Buffer.accept] using effect

theorem effect_take {seen : Bool} (reading : x.buffer.consumer = .reading)
    (looked : x.seen = some seen) : Effect .next x (x.take seen) := by
  cases items : x.buffer.items with
  | cons item rest =>
    have effect := Effect.took reading looked items
    cases seen <;> simpa [take, Buffer.drain, Buffer.receive, items] using effect
  | nil =>
    cases seen with
    | true =>
      have effect := Effect.reported reading looked items
      simpa [take, Buffer.drain, items] using effect
    | false =>
      by_cases senders : x.buffer.senders = 0
      · have effect := Effect.finished reading looked items senders
        simpa [take, Buffer.receive, items, senders] using effect
      · have effect : Effect .next x _ := .nothing x
        simpa [take, Buffer.receive, items, senders] using effect

theorem effect_next (x : Exchange α) : Effect .next x x.next := by
  unfold next
  split
  · rename_i reading fresh
    exact .looked reading fresh
  · rename_i reading looked
    exact effect_take reading looked
  · exact .nothing x

/-- A step makes one of the changes. -/
theorem effect_step (x : Exchange α) (move : Move α) : Effect move x (x.step move) := by
  unfold step
  split
  · exact effect_push ‹_› _
  · exact effect_send (.inl ‹_›)
  · exact effect_fail (.inl ⟨‹_›, rfl⟩)
  · have present : x.producer ≠ .gone := by simp [*]
    exact .gone present (.inl ‹_›)
  · exact effect_send (.inr ‹_›)
  · exact effect_fail (.inr ‹_›)
  · exact effect_next x
  · exact .left x
  · exact .nothing x

/-! ## What holds of every exchange -/

variable {source : String} {capacity : Nat}

structure Sound (source : String) (capacity : Nat) (x : Exchange α) : Prop where
  named : x.buffer.source = source
  sized : x.buffer.capacity = max capacity 1
  bounded : x.buffer.items.length ≤ x.buffer.capacity
  gone : x.producer = .gone → x.buffer.senders = 0
  present : x.producer ≠ .gone → x.buffer.senders = 1
  /-- Nobody waits to send after an overflow. -/
  flawless : ∀ e, x.producer = .sending e → x.buffer.overflowed = false
  unfailed : x.producer ≠ .gone → x.failure = none
  other : ∀ failure, x.producer = .failing failure ∨ x.failure = some failure →
    failure.isOverflow = false
  seen : x.seen = some true → x.buffer.overflowed = true
  /-- An overflow that the consumer has not seen leaves it something to take. -/
  unseen : x.seen = some false → x.buffer.overflowed = true → x.buffer.items ≠ []
  reading : x.buffer.consumer = .reading → x.received ++ x.buffer.items = x.queued
  ended : x.buffer.consumer = .ended →
    x.received = x.owed ∧ (x.buffer.overflowed = true ∨ x.producer = .gone)
  left : x.buffer.consumer = .dropped → x.received <+: x.owed

namespace Sound

theorem start (source : String) (capacity : Nat) : Sound source capacity (start (α := α) source capacity) where
  named := rfl
  sized := rfl
  bounded := Nat.zero_le _
  gone := nofun
  present := fun _ => rfl
  flawless := nofun
  unfailed := fun _ => rfl
  other := nofun
  seen := nofun
  unseen := nofun
  reading := fun _ => rfl
  ended := nofun
  left := nofun

/-- The consumer has got the front of what was queued. -/
theorem received_prefix (sound : Sound source capacity x) : x.received <+: x.owed := by
  cases consumer : x.buffer.consumer with
  | reading =>
    rw [owed, ← sound.reading consumer, List.append_assoc]
    exact List.prefix_append _ _
  | ended => exact (sound.ended consumer).1 ▸ List.prefix_rfl
  | dropped => exact sound.left consumer

/-- The producer begins to wait, or waits no more. -/
theorem busy (sound : Sound source capacity x) (present : x.producer ≠ .gone) {p : Producer α}
    (remains : p ≠ .gone) (flawless : ∀ e, p = .sending e → x.buffer.overflowed = false)
    (other : ∀ failure, p = .failing failure → failure.isOverflow = false) :
    Sound source capacity { x with producer := p } :=
  { sound with
    gone := fun gone => absurd gone remains
    present := fun _ => sound.present present
    flawless := flawless
    unfailed := fun _ => sound.unfailed present
    other := fun failure failed =>
      failed.elim (other failure) fun failed => sound.other failure (.inr failed)
    ended := fun consumer => ⟨(sound.ended consumer).1,
      .inl ((sound.ended consumer).2.resolve_right present)⟩ }

/-- The producer goes away. -/
theorem drop (sound : Sound source capacity x) (present : x.producer ≠ .gone) :
    Sound source capacity x.drop :=
  { sound with
    gone := fun _ => by rw [Exchange.drop, Buffer.dropSender, sound.present present]
    present := fun remains => absurd rfl remains
    flawless := nofun
    unfailed := fun remains => absurd rfl remains
    other := fun failure failed => sound.other failure (.inr (failed.resolve_left nofun))
    ended := fun consumer => ⟨(sound.ended consumer).1, .inr rfl⟩ }

/-- What there is room for is put into the queue. -/
theorem accept (sound : Sound source capacity x) (reading : x.buffer.consumer = .reading)
    (room : x.buffer.items.length < x.buffer.capacity) (item : Except Failure (Event α))
    {events : List (Event α)} {last : Option Failure}
    (history : x.queued ++ [item] = events.map .ok ++ last.toList.map .error)
    (unfailed : x.producer ≠ .gone → last = none)
    (other : ∀ failure, last = some failure → failure.isOverflow = false) :
    Sound source capacity
      { x with buffer := x.buffer.accept item, accepted := events, failure := last } :=
  { sound with
    bounded := by simpa [Buffer.accept, Nat.succ_le_iff] using room
    unfailed := unfailed
    other := fun failure failed =>
      failed.elim (fun failing => sound.other failure (.inl failing)) (other failure)
    unseen := fun _ _ => by simp [Buffer.accept]
    reading := fun _ => by
      rw [queued, ← history, ← sound.reading reading, Buffer.accept, List.append_assoc]
    ended := fun consumer => by cases reading.symm.trans consumer
    left := fun consumer => by cases reading.symm.trans consumer }

theorem effect (sound : Sound source capacity x) (effect : Effect move x y) : Sound source capacity y := by
  cases effect with
  | nothing => exact sound
  | @accepted _ _ e busy reading flawless room =>
    have present := ne_gone_of_sending busy
    have last := sound.unfailed present
    have waiting := sound.busy present (p := .idle) nofun nofun nofun
    have history : x.queued ++ [.ok e] = (x.accepted ++ [e]).map .ok ++ x.failure.toList.map .error := by
      simp [queued, last]
    exact waiting.accept reading room (.ok e) history (fun _ => last) fun failure failed =>
      sound.other failure (.inr failed)
  | @rejected _ _ e busy =>
    exact sound.busy (ne_gone_of_sending busy) nofun nofun nofun
  | overflowed idle reading full =>
    have items : x.buffer.items ≠ [] := by
      have sized := sound.sized
      intro none
      rw [none, List.length_nil] at full
      omega
    exact { sound with
      flawless := fun e sending => by cases idle.symm.trans sending
      seen := fun _ => rfl
      unseen := fun _ _ => items
      ended := fun consumer => by cases reading.symm.trans consumer
      left := fun consumer => by cases reading.symm.trans consumer }
  | @waits _ _ e busy flawless =>
    exact sound.busy (ne_gone_of_sending busy) nofun (fun _ _ => flawless) nofun
  | @failed _ _ failure busy other reading room =>
    have present := ne_gone_of_failing busy
    have last := sound.unfailed present
    have history : x.queued ++ [.error failure] =
        x.accepted.map .ok ++ (some failure).toList.map .error := by
      simp [queued, last]
    exact (sound.drop present).accept reading room (.error failure) history
      (fun remains => absurd rfl remains) fun _ same => Option.some.inj same ▸ other
  | @waitsToFail _ _ failure busy other full =>
    refine sound.busy (ne_gone_of_failing busy) nofun nofun fun last failing => ?_
    cases failing
    exact other
  | gone present => exact sound.drop present
  | looked reading fresh =>
    exact { sound with
      seen := fun looked => Option.some.inj looked
      unseen := fun looked overflowed => by cases overflowed.symm.trans (Option.some.inj looked) }
  | @took _ item rest seen reading looked items =>
    exact { sound with
      bounded := by
        have bounded := sound.bounded
        rw [items, List.length_cons] at bounded
        exact Nat.le_of_succ_le bounded
      seen := nofun
      unseen := nofun
      reading := fun _ => by
        have history := sound.reading reading
        rw [items] at history
        simpa [queued] using history
      ended := fun consumer => by cases reading.symm.trans consumer
      left := fun consumer => by cases reading.symm.trans consumer }
  | reported reading looked items =>
    have history := sound.reading reading
    rw [items, List.append_nil] at history
    have overflowed := sound.seen looked
    exact { sound with
      seen := nofun
      unseen := nofun
      reading := nofun
      ended := fun _ => ⟨by simp [owed, queued, overflowed, history, Buffer.overflowFailure], .inl overflowed⟩
      left := nofun }
  | finished reading looked items senders =>
    have history := sound.reading reading
    rw [items, List.append_nil] at history
    have flawless : x.buffer.overflowed = false := by
      cases overflowed : x.buffer.overflowed with
      | false => rfl
      | true => exact absurd items (sound.unseen looked overflowed)
    have gone : x.producer = .gone := Classical.byContradiction fun present => by
      rw [sound.present present] at senders
      cases senders
    exact { sound with
      seen := nofun
      unseen := nofun
      reading := nofun
      ended := fun _ => ⟨by simp [owed, queued, flawless, history], .inr gone⟩
      left := nofun }
  | left =>
    exact { sound with
      bounded := Nat.zero_le _
      seen := nofun
      unseen := nofun
      reading := nofun
      ended := nofun
      left := fun _ => sound.received_prefix }

theorem run (sound : Sound source capacity x) (moves : List (Move α)) :
    Sound source capacity (x.run moves) := by
  induction moves generalizing x with
  | nil => exact sound
  | cons move rest ih => exact ih (sound.effect (effect_step x move))

end Sound

end Exchange

end StreamOperator
