import Mathlib.Data.Finset.Basic
import StreamOperator.Subscription.Tracker

/-!
# Replaying a watch

What a watcher reports is followed along its history, the latest change first. Three views of the
resources go with it: which ones exist by the last complete list and the changes since
(`Change.existing`), which ones the tracker knows (`Tracker.agrees_after`), and which ones a consumer holds
that replays the events of the tracker (`Tracker.held`). Outside of a list the tracker knows what exists. A
consumer holds all of that, and beyond it exactly what vanished between two lists (`replay_of_history`):
that a list omits a resource is not reported as a removal.
-/

set_option autoImplicit false

namespace StreamOperator

section Replay

variable {α : Type} {metadata : α → Metadata} {history earlier : List (Change α)} {c : Change α}
  {id : Identity} {listing : Bool}

/-! ## What a watcher says -/

/-- The changes follow the protocol of a watcher: resources are listed within a list, and change by
themselves outside of one. A list may begin at any time, also anew. -/
inductive Change.Protocol : Bool → List (Change α) → Prop where
  | start : Protocol false []
  | listBegin {listing : Bool} {earlier : List (Change α)} (before : Protocol listing earlier) :
      Protocol true (.listBegin :: earlier)
  | listed {earlier : List (Change α)} {r : α} (before : Protocol true earlier) :
      Protocol true (.listed r :: earlier)
  | listEnd {earlier : List (Change α)} (before : Protocol true earlier) :
      Protocol false (.listEnd :: earlier)
  | applied {earlier : List (Change α)} {r : α} (before : Protocol false earlier) :
      Protocol false (.applied r :: earlier)
  | deleted {earlier : List (Change α)} {r : α} (before : Protocol false earlier) :
      Protocol false (.deleted r :: earlier)

namespace Change

/-- What a change is about, if it is about a resource. -/
def identity? (metadata : α → Metadata) : Change α → Option Identity
  | listBegin | listEnd => none
  | listed r | applied r | deleted r => some (metadata r).identity

end Change

section

variable (metadata)

/-- What has been listed since the last list began. -/
def Change.listedSince : List (Change α) → Finset Identity
  | .listed r :: earlier => insert (metadata r).identity (Change.listedSince earlier)
  | _ => ∅

/-- What exists by the last complete list and the changes that came by themselves since. -/
def Change.existing : List (Change α) → Finset Identity
  | [] => ∅
  | .listBegin :: earlier | .listed _ :: earlier => Change.existing earlier
  | .listEnd :: earlier => Change.listedSince metadata earlier
  | .applied r :: earlier => insert (metadata r).identity (Change.existing earlier)
  | .deleted r :: earlier => (Change.existing earlier).erase (metadata r).identity

/-! ## What a consumer is told -/

/-- The tracker after a history. -/
def Tracker.after : List (Change α) → Tracker
  | [] => {}
  | c :: earlier => (after earlier).advance metadata c

/-- The events of a history, the latest first. -/
def Tracker.eventsOf : List (Change α) → List (Event α)
  | [] => []
  | c :: earlier => ((after metadata earlier).event? metadata c).toList ++ eventsOf earlier

/-- What a consumer holds that replays events, the latest first. -/
def Event.replayed : List (Event α) → Finset Identity
  | [] => ∅
  | e :: earlier => match e.type with
    | .added | .modified => insert (metadata e.resource).identity (Event.replayed earlier)
    | .deleted => (Event.replayed earlier).erase (metadata e.resource).identity

/-- What a consumer holds after a history. -/
def Tracker.held (history : List (Change α)) : Finset Identity :=
  Event.replayed metadata (Tracker.eventsOf metadata history)

/-- A resource that a consumer held was omitted by a complete list, and nothing was said of it since. -/
inductive Change.Vanished (id : Identity) : List (Change α) → Prop where
  | omitted {earlier : List (Change α)} (kept : id ∈ Tracker.held metadata earlier)
      (missing : id ∉ Change.listedSince metadata earlier) : Change.Vanished id (.listEnd :: earlier)
  | since {c : Change α} {earlier : List (Change α)} (vanished : Change.Vanished id earlier)
      (other : c.identity? metadata ≠ some id) : Change.Vanished id (c :: earlier)

end

/-! ## The tracker -/

theorem Tracker.mem_adding {set : List Identity} {other : Identity} :
    id ∈ adding other set ↔ id = other ∨ id ∈ set := by
  unfold adding
  split
  · constructor
    · exact .inr
    · rintro (rfl | member) <;> assumption
  · simp [or_comm]

theorem Tracker.mem_dropping {set : List Identity} {other : Identity} :
    id ∈ dropping other set ↔ id ≠ other ∧ id ∈ set := by
  simp [dropping, and_comm]

/-- The tracker knows what exists, and what the list in progress held so far. -/
structure Tracker.Agrees (metadata : α → Metadata) (listing : Bool) (history : List (Change α))
    (t : Tracker) : Prop where
  known : ∀ id, id ∈ t.known ↔ id ∈ Change.existing metadata history
  idle : listing = false → t.listed = none
  listed : listing = true →
    ∃ ids, t.listed = some ids ∧ ∀ id, id ∈ ids ↔ id ∈ Change.listedSince metadata history

theorem Tracker.agrees_after (protocol : Change.Protocol listing history) :
    (Tracker.after metadata history).Agrees metadata listing history := by
  induction protocol with
  | start => exact ⟨fun _ => by simp [after, Change.existing], fun _ => rfl, nofun⟩
  | listBegin before ih =>
    exact ⟨ih.known, nofun, fun _ => ⟨[], rfl, fun _ => by simp [Change.listedSince]⟩⟩
  | listed before ih =>
    obtain ⟨ids, listed, same⟩ := ih.listed rfl
    refine ⟨ih.known, nofun, fun _ => ⟨_, rfl, fun id => ?_⟩⟩
    rw [listed, Option.getD_some, mem_adding, same, Change.listedSince, Finset.mem_insert]
  | listEnd before ih =>
    obtain ⟨ids, listed, same⟩ := ih.listed rfl
    refine ⟨fun id => ?_, fun _ => rfl, nofun⟩
    simp only [after, advance, listed, Option.getD_some]
    exact same id
  | applied before ih =>
    refine ⟨fun id => ?_, ih.idle, nofun⟩
    rw [after, advance, mem_adding, ih.known, Change.existing, Finset.mem_insert]
  | deleted before ih =>
    refine ⟨fun id => ?_, ih.idle, nofun⟩
    rw [after, advance, mem_dropping, ih.known, Change.existing, Finset.mem_erase]

/-! ## The consumer -/

theorem Event.replayed_shown (t : Tracker) (r : α) (events : List (Event α)) :
    Event.replayed metadata (⟨t.typeOf (metadata r).identity, r⟩ :: events)
      = insert (metadata r).identity (Event.replayed metadata events) := by
  unfold Tracker.typeOf
  split <;> rfl

theorem Tracker.held_listed (r : α) (earlier : List (Change α)) :
    Tracker.held metadata (.listed r :: earlier) =
      insert (metadata r).identity (Tracker.held metadata earlier) := Event.replayed_shown _ r _

theorem Tracker.held_applied (r : α) (earlier : List (Change α)) :
    Tracker.held metadata (.applied r :: earlier) =
      insert (metadata r).identity (Tracker.held metadata earlier) := Event.replayed_shown _ r _

theorem Tracker.held_deleted (r : α) (earlier : List (Change α)) :
    Tracker.held metadata (.deleted r :: earlier) =
      (Tracker.held metadata earlier).erase (metadata r).identity := rfl

/-- What a change is not about is held as before. -/
theorem Tracker.mem_held_of_other (other : c.identity? metadata ≠ some id) :
    id ∈ Tracker.held metadata (c :: earlier) ↔ id ∈ Tracker.held metadata earlier := by
  cases c with
  | listBegin => rfl
  | listEnd => rfl
  | listed r =>
    have other : id ≠ (metadata r).identity := fun same => other (congrArg some same.symm)
    rw [Tracker.held_listed, Finset.mem_insert, or_iff_right other]
  | applied r =>
    have other : id ≠ (metadata r).identity := fun same => other (congrArg some same.symm)
    rw [Tracker.held_applied, Finset.mem_insert, or_iff_right other]
  | deleted r =>
    have other : id ≠ (metadata r).identity := fun same => other (congrArg some same.symm)
    rw [Tracker.held_deleted, Finset.mem_erase, and_iff_right other]

/-- What was listed since a list began is held. -/
theorem Tracker.mem_held_of_listedSince (protocol : Change.Protocol listing history)
    (running : listing = true) (listed : id ∈ Change.listedSince metadata history) :
    id ∈ Tracker.held metadata history := by
  induction protocol with
  | listed before ih =>
    rw [Change.listedSince, Finset.mem_insert] at listed
    rw [Tracker.held_listed, Finset.mem_insert]
    exact listed.imp_right (ih rfl)
  | listBegin _ => simp [Change.listedSince] at listed
  | start | listEnd _ | applied _ | deleted _ => cases running

/-- What has vanished is held on to. -/
theorem Change.Vanished.held (vanished : Change.Vanished metadata id history) :
    id ∈ Tracker.held metadata history := by
  induction vanished with
  | omitted kept missing => exact kept
  | since vanished other ih => exact (Tracker.mem_held_of_other other).2 ih

/-- What has vanished is not listed while nothing is said of it. -/
theorem Change.Vanished.not_listed (vanished : Change.Vanished metadata id history) :
    id ∉ Change.listedSince metadata history := by
  induction vanished with
  | omitted kept missing => simp [Change.listedSince]
  | @since c earlier vanished other ih =>
    cases c with
    | listed r =>
      rw [Change.listedSince, Finset.mem_insert]
      rintro (rfl | listed)
      · exact other rfl
      · exact ih listed
    | _ => simp [Change.listedSince]

/-- What has vanished does not exist. -/
theorem Change.Vanished.not_existing (vanished : Change.Vanished metadata id history) :
    id ∉ Change.existing metadata history := by
  induction vanished with
  | omitted kept missing => exact missing
  | @since c earlier vanished other ih =>
    cases c with
    | listBegin => exact ih
    | listed r => exact ih
    | listEnd => exact vanished.not_listed
    | applied r =>
      rw [Change.existing, Finset.mem_insert]
      rintro (rfl | exists_)
      · exact other rfl
      · exact ih exists_
    | deleted r =>
      rw [Change.existing, Finset.mem_erase]
      exact fun both => ih both.2

/-- Nothing has vanished that something was just said of. -/
theorem Change.Vanished.other (vanished : Change.Vanished metadata id (c :: earlier)) :
    c.identity? metadata ≠ some id := by
  cases vanished with
  | omitted kept missing => exact nofun
  | since vanished other => exact other

theorem Change.vanished_cons_iff (other : c.identity? metadata ≠ some id) (single : c ≠ .listEnd) :
    Change.Vanished metadata id (c :: earlier) ↔ Change.Vanished metadata id earlier := by
  refine ⟨fun vanished => ?_, fun vanished => .since vanished other⟩
  cases vanished with
  | omitted kept missing => exact absurd rfl single
  | since vanished _ => exact vanished

/-- Outside of a list a consumer holds what exists and what has vanished. -/
theorem Tracker.mem_held_iff (protocol : Change.Protocol listing history) (idle : listing = false) :
    id ∈ Tracker.held metadata history ↔
      id ∈ Change.existing metadata history ∨ Change.Vanished metadata id history := by
  induction protocol with
  | start =>
    constructor
    · exact fun member => by cases member
    · rintro (member | vanished)
      · cases member
      · cases vanished
  | listBegin _ | listed _ => cases idle
  | @listEnd earlier before ih =>
    constructor
    · intro kept
      by_cases listed : id ∈ Change.listedSince metadata earlier
      · exact .inl listed
      · exact .inr (.omitted kept listed)
    · rintro (listed | vanished)
      · have listed : id ∈ Change.listedSince metadata earlier := listed
        have kept : id ∈ Tracker.held metadata earlier := Tracker.mem_held_of_listedSince before rfl listed
        exact kept
      · exact vanished.held
  | @applied earlier r before ih =>
    by_cases own : id = (metadata r).identity
    · subst own
      simp [Tracker.held_applied, Change.existing]
    · have other : (Change.applied r).identity? metadata ≠ some id :=
        fun same => own (Option.some.inj same).symm
      rw [Tracker.mem_held_of_other other, ih rfl, Change.existing, Finset.mem_insert, or_iff_right own,
        Change.vanished_cons_iff other nofun]
  | @deleted earlier r before ih =>
    by_cases own : id = (metadata r).identity
    · subst own
      simp only [Tracker.held_deleted, Change.existing, Finset.mem_erase, ne_eq, not_true_eq_false,
        false_and, false_or, false_iff]
      exact fun vanished => vanished.other rfl
    · have other : (Change.deleted r).identity? metadata ≠ some id :=
        fun same => own (Option.some.inj same).symm
      rw [Tracker.mem_held_of_other other, ih rfl, Change.existing, Finset.mem_erase, and_iff_right own,
        Change.vanished_cons_iff other nofun]

/-- A removal is reported where the watcher reports one. -/
theorem Tracker.event?_deleted_iff (t : Tracker) (r : α) :
    t.event? metadata c = some ⟨.deleted, r⟩ ↔ c = .deleted r := by
  have shown : ∀ id, t.typeOf id ≠ .deleted := by
    intro id
    unfold typeOf
    split <;> nofun
  cases c with
  | listBegin | listEnd => exact iff_of_false nofun nofun
  | listed r' | applied r' =>
    refine iff_of_false (fun same => ?_) nofun
    simp only [event?, Option.some.injEq, Event.mk.injEq] at same
    exact shown _ same.1
  | deleted r' => simp [event?]

/-- Outside of a list the tracker knows what exists, and a consumer that replays its events holds what
exists together with what vanished between two lists. So it holds exactly what exists when nothing has
vanished; a removal is only reported when the watcher reports one. -/
theorem replay_of_history (settled : Change.Protocol false history) :
    (∀ id, id ∈ (Tracker.after metadata history).known ↔ id ∈ Change.existing metadata history) ∧
    (∀ id, id ∈ Tracker.held metadata history ↔
      id ∈ Change.existing metadata history ∨ Change.Vanished metadata id history) ∧
    (∀ id, Change.Vanished metadata id history → id ∉ Change.existing metadata history) ∧
    (Tracker.held metadata history = Change.existing metadata history ↔
      ∀ id, ¬Change.Vanished metadata id history) ∧
    ∀ c r, (Tracker.after metadata history).event? metadata c = some ⟨.deleted, r⟩ ↔ c = .deleted r := by
  refine ⟨(Tracker.agrees_after settled).known, fun id => Tracker.mem_held_iff settled rfl,
    fun id => Change.Vanished.not_existing, ⟨fun same id vanished => ?_, fun none => ?_⟩,
    fun c r => Tracker.event?_deleted_iff _ r⟩
  · exact vanished.not_existing (same ▸ vanished.held)
  · ext id
    rw [Tracker.mem_held_iff settled rfl, or_iff_left (none id)]

end Replay

section Orders

def listedOrders : Metadata := { name := some "orders", space := some "streams" }

def listedCustomers : Metadata := { name := some "customers", space := some "streams" }

/-- Orders and customers were listed, and then the orders alone; the last change comes first. -/
def relistedOrders : List (Change Metadata) :=
  [.listEnd, .listed listedOrders, .listBegin,
    .listEnd, .listed listedCustomers, .listed listedOrders, .listBegin]

theorem relistedOrders_settled : Change.Protocol false relistedOrders :=
  .listEnd (.listed (.listBegin (.listEnd (.listed (.listed (.listBegin .start))))))

/-- The customers vanished between the two lists. -/
theorem customers_vanished : Change.Protocol false relistedOrders ∧
    Change.Vanished id listedCustomers.identity relistedOrders := by
  obtain ⟨-, holds, -⟩ := @replay_of_history Metadata id _ relistedOrders_settled
  refine ⟨relistedOrders_settled, ?_⟩
  rcases (holds listedCustomers.identity).1 (by decide +kernel) with exists_ | vanished
  · exact absurd exists_ (by decide +kernel)
  · exact vanished

/-- A replay does not always give what exists: the customers are held on to, and no removal was
reported. -/
theorem omission_is_not_reported : Change.Protocol false relistedOrders ∧
    Tracker.held id relistedOrders ≠ Change.existing id relistedOrders ∧
    ∀ e ∈ Tracker.eventsOf id relistedOrders, e.type ≠ .deleted :=
  ⟨relistedOrders_settled, by decide +kernel, by decide +kernel⟩

end Orders

end StreamOperator
