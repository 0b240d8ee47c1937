import Mathlib.Data.Finset.Card
import StreamOperator.Event.Dedup

/-!
# Repeats of events

What a deduplicator remembers follows from what has arrived, the latest arrival first: of each resource the
version that came last, or nothing once the resource was forgotten (`Deduplicator.remembered_after`); and as
long as there is room nothing is forgotten (`Deduplicator.get?_after_of_room`). So an event is dropped only if
it repeats the version that came last of its resource (`Deduplicator.only_repeats_are_dropped`), whatever is
forgotten for what. The lemmas start from any state that a deduplicator can be in, so that they also hold of
what arrives after a certain event.
-/

set_option autoImplicit false

namespace StreamOperator

/-! ## Keys of a table -/

namespace Table

variable {κ β : Type} [DecidableEq κ] {key : κ} {value : β} {table part : Table κ β}

/-- The keys that have an entry. -/
def keys (table : Table κ β) : Finset κ := (table.map Prod.fst).toFinset

theorem mem_keys : key ∈ keys table ↔ get? key table ≠ none := by
  induction table with
  | nil => simp [keys, get?]
  | cons head rest ih =>
    obtain ⟨k, v⟩ := head
    by_cases own : k = key
    · simp [keys, get?, own]
    · simpa [keys, get?, own, Ne.symm own] using ih

theorem card_keys (distinct : Distinct table) : (keys table).card = table.length := by
  rw [keys, List.toFinset_card_of_nodup distinct, List.length_map]

theorem keys_set (key : κ) (value : β) (table : Table κ β) :
    keys (set key value table) = insert key (keys table) := by
  ext other
  rw [Finset.mem_insert, mem_keys, mem_keys, get?_set]
  by_cases own : other = key <;> simp [own]

/-- An entry more, unless the key had one. -/
theorem length_set (distinct : Distinct table) (key : κ) (value : β) :
    (set key value table).length = (insert key (keys table)).card := by
  rw [← card_keys distinct.set, keys_set]

omit [DecidableEq κ] in
theorem Distinct.of_sublist (distinct : Distinct table) (sub : part.Sublist table) : Distinct part :=
  (sub.map Prod.fst).nodup distinct

/-- Entries that are taken out leave no others behind. -/
theorem get?_of_sublist (distinct : Distinct table) (sub : part.Sublist table) (key : κ) :
    get? key part = none ∨ get? key part = get? key table := by
  cases found : get? key part with
  | none => exact .inl rfl
  | some value => exact .inr (get?_of_mem distinct (sub.subset (mem_of_get? found))).symm

end Table

namespace Deduplicator

/-- An event that arrives: what it is of, and which of the resources is forgotten for it if one has to be. -/
structure Arrival where
  choice : Nat
  kind : String
  metadata : Metadata

namespace Arrival

/-- What its resource is remembered by. -/
def key (a : Arrival) : EventKey := keyOf a.kind a.metadata

/-- The version that it brings of its resource. -/
def entry? (a : Arrival) : Option (EventKey × String) :=
  a.metadata.resourceVersion.map fun version => (a.key, version)

end Arrival

variable {d : Deduplicator} {choice capacity : Nat} {key other : EventKey} {version : String}

/-! ## One version -/

/-- The state of a deduplicator that is in use: a bounded number of resources, each with one version. -/
structure Sound (d : Deduplicator) : Prop where
  room : 0 < d.capacity
  distinct : Table.Distinct d.seen
  bounded : d.seen.length ≤ d.capacity

theorem sound_empty (capacity : Nat) : (empty capacity).Sound where
  room := Nat.lt_of_lt_of_le Nat.one_pos (Nat.le_max_right capacity 1)
  distinct := List.nodup_nil
  bounded := Nat.zero_le _

theorem evict_sublist (choice : Nat) (seen : Table EventKey String) : (evict choice seen).Sublist seen :=
  List.eraseIdx_sublist _ _

theorem length_evict {seen : Table EventKey String} (filled : 0 < seen.length) (choice : Nat) :
    (evict choice seen).length = seen.length - 1 := by
  rw [evict, List.length_eraseIdx, if_pos (Nat.mod_lt choice filled)]

/-- What is kept beside a version of a resource: one that is not remembered takes the place of another when
there is no room. -/
def kept (d : Deduplicator) (choice : Nat) (key : EventKey) : Table EventKey String :=
  if Table.get? key d.seen = none ∧ d.capacity ≤ d.seen.length then evict choice d.seen else d.seen

theorem kept_sublist (d : Deduplicator) (choice : Nat) (key : EventKey) :
    (d.kept choice key).Sublist d.seen := by
  unfold kept
  split
  · exact evict_sublist _ _
  · exact List.Sublist.refl _

theorem kept_of_remembered (remembered : Table.get? key d.seen ≠ none) : d.kept choice key = d.seen :=
  if_neg fun both => remembered both.1

theorem kept_of_room (room : d.seen.length < d.capacity) : d.kept choice key = d.seen :=
  if_neg fun both => absurd both.2 (Nat.not_le.2 room)

/-- There is room for a resource that is not remembered. -/
theorem Sound.length_kept_lt (sound : d.Sound) (choice : Nat) (new : Table.get? key d.seen = none) :
    (d.kept choice key).length < d.capacity := by
  have room := sound.room
  have bounded := sound.bounded
  by_cases full : d.capacity ≤ d.seen.length
  · rw [kept, if_pos ⟨new, full⟩, length_evict (by omega)]
    omega
  · rw [kept_of_room (by omega)]
    omega

/-- A version passes unless it is the one that is remembered, and is remembered afterwards. -/
theorem judge_eq (d : Deduplicator) (choice : Nat) (key : EventKey) (version : String) :
    d.judge choice key version =
      if Table.get? key d.seen = some version then (false, d)
      else (true, { d with seen := Table.set key version (d.kept choice key) }) := by
  unfold judge
  cases found : Table.get? key d.seen with
  | none => simp only [kept, found, true_and, reduceCtorEq, if_false]
  | some last =>
    rw [kept_of_remembered (by simp [found])]
    simp only [Option.some.injEq]

theorem filter_of_version {kind : String} {m : Metadata} (versioned : m.resourceVersion = some version) :
    d.filter choice kind m = d.judge choice (keyOf kind m) version := by
  rw [filter, versioned]

theorem judge_fst : (d.judge choice key version).1 = true ↔ Table.get? key d.seen ≠ some version := by
  rw [judge_eq]
  split <;> simp [*]

theorem capacity_judge : (d.judge choice key version).2.capacity = d.capacity := by
  rw [judge_eq]
  split <;> rfl

theorem get?_judge_self : Table.get? key (d.judge choice key version).2.seen = some version := by
  rw [judge_eq]
  split
  · assumption
  · exact Table.get?_set_self _ _ _

/-- Any other resource may be forgotten. -/
theorem Sound.get?_judge_of_ne (sound : d.Sound) (differ : other ≠ key) :
    Table.get? other (d.judge choice key version).2.seen = none ∨
      Table.get? other (d.judge choice key version).2.seen = Table.get? other d.seen := by
  rw [judge_eq]
  split
  · exact .inr rfl
  · simp only [Table.get?_set_of_ne differ]
    exact Table.get?_of_sublist sound.distinct (d.kept_sublist choice key) other

theorem Sound.judge (sound : d.Sound) (choice : Nat) (key : EventKey) (version : String) :
    (d.judge choice key version).2.Sound := by
  rw [judge_eq]
  split
  · exact sound
  · have distinct := sound.distinct.of_sublist (d.kept_sublist choice key)
    refine ⟨sound.room, distinct.set, ?_⟩
    show (Table.set key version (d.kept choice key)).length ≤ d.capacity
    rw [Table.length_set distinct]
    by_cases new : Table.get? key d.seen = none
    · have less := sound.length_kept_lt choice new
      have size := Finset.card_insert_le key (Table.keys (d.kept choice key))
      rw [Table.card_keys distinct] at size
      omega
    · rw [kept_of_remembered new, Finset.insert_eq_of_mem (Table.mem_keys.2 new),
        Table.card_keys sound.distinct]
      exact sound.bounded

/-- Nothing is forgotten while there is room for one more. -/
theorem Sound.keys_judge (sound : d.Sound) (choice : Nat) (version : String)
    (room : (insert key (Table.keys d.seen)).card ≤ d.capacity) :
    Table.keys (d.judge choice key version).2.seen = insert key (Table.keys d.seen) := by
  rw [judge_eq]
  split
  · rename_i repeated
    exact (Finset.insert_eq_of_mem (Table.mem_keys.2 (by simp [repeated]))).symm
  · show Table.keys (Table.set key version (d.kept choice key)) = _
    rw [Table.keys_set]
    by_cases new : Table.get? key d.seen = none
    · rw [Finset.card_insert_of_notMem fun known => Table.mem_keys.1 known new,
        Table.card_keys sound.distinct] at room
      rw [kept_of_room (by omega)]
    · rw [kept_of_remembered new]

/-! ## Arrivals -/

/-- The versions that have arrived, each with its resource. -/
def versions (history : List Arrival) : Table EventKey String := history.filterMap Arrival.entry?

/-- The version of a resource that came last. -/
def lastVersion? (key : EventKey) (history : List Arrival) : Option String :=
  Table.get? key (versions history)

/-- Whether an arrival passes, with what is remembered after it. -/
def meet (d : Deduplicator) (a : Arrival) : Bool × Deduplicator := d.filter a.choice a.kind a.metadata

/-- What is remembered after a history. -/
def after (d : Deduplicator) : List Arrival → Deduplicator
  | [] => d
  | a :: earlier => ((d.after earlier).meet a).2

section

variable {a : Arrival} {history : List Arrival}

theorem meet_of_unversioned (unversioned : a.metadata.resourceVersion = none) : d.meet a = (true, d) := by
  rw [meet, filter, unversioned]

theorem meet_of_version (versioned : a.metadata.resourceVersion = some version) :
    d.meet a = d.judge a.choice a.key version := filter_of_version versioned

theorem versions_of_unversioned (unversioned : a.metadata.resourceVersion = none) :
    versions (a :: history) = versions history := by
  simp [versions, Arrival.entry?, unversioned]

theorem versions_of_version (versioned : a.metadata.resourceVersion = some version) :
    versions (a :: history) = (a.key, version) :: versions history := by
  simp [versions, Arrival.entry?, versioned]

theorem capacity_after (history : List Arrival) : (d.after history).capacity = d.capacity := by
  induction history with
  | nil => rfl
  | cons a earlier ih =>
    rw [after]
    cases versioned : a.metadata.resourceVersion with
    | none => rw [meet_of_unversioned versioned, ih]
    | some version => rw [meet_of_version versioned, capacity_judge, ih]

theorem Sound.after (sound : d.Sound) (history : List Arrival) : (d.after history).Sound := by
  induction history with
  | nil => exact sound
  | cons a earlier ih =>
    rw [Deduplicator.after]
    cases versioned : a.metadata.resourceVersion with
    | none =>
      rw [meet_of_unversioned versioned]
      exact ih
    | some version =>
      rw [meet_of_version versioned]
      exact ih.judge _ _ _

/-- What is remembered of a resource is the version that came last, unless it was forgotten. -/
theorem remembered_after (sound : d.Sound) (history : List Arrival) (key : EventKey) :
    Table.get? key (d.after history).seen = none ∨
      Table.get? key (d.after history).seen = (lastVersion? key history).or (Table.get? key d.seen) := by
  induction history with
  | nil => exact .inr rfl
  | cons a earlier ih =>
    rw [after]
    cases versioned : a.metadata.resourceVersion with
    | none =>
      rw [meet_of_unversioned versioned, lastVersion?, versions_of_unversioned versioned]
      exact ih
    | some version =>
      rw [meet_of_version versioned, lastVersion?, versions_of_version versioned, Table.get?]
      by_cases own : a.key = key
      · subst own
        rw [if_pos rfl]
        exact .inr get?_judge_self
      · rw [if_neg own]
        rcases (sound.after earlier).get?_judge_of_ne (Ne.symm own) with forgotten | same
        · exact .inl forgotten
        · rw [same]
          exact ih

/-- Nothing is forgotten as long as there is room for all resources. -/
theorem keys_after_of_room (sound : d.Sound)
    (room : (Table.keys d.seen ∪ Table.keys (versions history)).card ≤ d.capacity) :
    Table.keys (d.after history).seen = Table.keys d.seen ∪ Table.keys (versions history) := by
  induction history with
  | nil => exact (Finset.union_empty _).symm
  | cons a earlier ih =>
    rw [after]
    cases versioned : a.metadata.resourceVersion with
    | none =>
      rw [versions_of_unversioned versioned] at room ⊢
      rw [meet_of_unversioned versioned, ih room]
    | some version =>
      have more : Table.keys d.seen ∪ Table.keys (versions (a :: earlier))
          = insert a.key (Table.keys d.seen ∪ Table.keys (versions earlier)) := by
        rw [versions_of_version versioned, ← Finset.union_insert]
        simp [Table.keys]
      rw [more] at room ⊢
      -- What was remembered before is all that came before, so there is room for one more.
      have known := ih (Nat.le_trans (Finset.card_le_card (Finset.subset_insert _ _)) room)
      rw [← known] at room ⊢
      rw [← capacity_after earlier] at room
      rw [meet_of_version versioned]
      exact (sound.after earlier).keys_judge _ _ room

theorem get?_after_of_room (sound : d.Sound)
    (room : (Table.keys d.seen ∪ Table.keys (versions history)).card ≤ d.capacity) (key : EventKey) :
    Table.get? key (d.after history).seen = (lastVersion? key history).or (Table.get? key d.seen) := by
  rcases remembered_after sound history key with nothing | same
  · have unknown : key ∉ Table.keys (d.after history).seen := fun known => Table.mem_keys.1 known nothing
    rw [keys_after_of_room sound room, Finset.mem_union, Table.mem_keys, Table.mem_keys] at unknown
    obtain ⟨unseen, unsighted⟩ := not_or.1 unknown
    rw [nothing, lastVersion?, not_not.1 unsighted, not_not.1 unseen]
    rfl
  · exact same

/-- What is dropped repeats the version that is remembered. -/
theorem remembered_of_dropped (dropped : (d.meet a).1 = false) :
    ∃ version, a.metadata.resourceVersion = some version ∧ Table.get? a.key d.seen = some version := by
  cases versioned : a.metadata.resourceVersion with
  | none =>
    rw [meet_of_unversioned versioned] at dropped
    cases dropped
  | some version =>
    rw [meet_of_version versioned] at dropped
    refine ⟨version, rfl, ?_⟩
    by_contra other
    rw [judge_fst.2 other] at dropped
    cases dropped

/-- A version that is remembered came last. -/
theorem lastVersion?_of_remembered
    (remembered : Table.get? key ((empty capacity).after history).seen = some version) :
    lastVersion? key history = some version := by
  rcases remembered_after (sound_empty capacity) history key with nothing | same
  · cases nothing.symm.trans remembered
  · have unseen : Table.get? key (empty capacity).seen = none := rfl
    rw [unseen, Option.or_none] at same
    exact same.symm.trans remembered

/-- With room for all resources, every version that came last is remembered. -/
theorem remembered_of_room (room : (Table.keys (versions history)).card ≤ max capacity 1)
    (key : EventKey) :
    Table.get? key ((empty capacity).after history).seen = lastVersion? key history := by
  have unseen : Table.keys (empty capacity).seen = ∅ := rfl
  rw [get?_after_of_room (sound_empty capacity) (by rwa [unseen, Finset.empty_union])]
  exact Option.or_none ..

/-- A deduplicator remembers a bounded number of resources, of each the version that came last. It drops an
event only if this repeats that version; events without a version leave no trace. As long as there is room it
drops all repeats. -/
theorem only_repeats_are_dropped (capacity : Nat) (history : List Arrival) (a : Arrival) :
    let d := (empty capacity).after history
    (Table.Distinct d.seen ∧ d.seen.length ≤ max capacity 1) ∧
    (∀ key version, (key, version) ∈ d.seen → lastVersion? key history = some version) ∧
    ((d.meet a).1 = false → ∃ version, a.metadata.resourceVersion = some version ∧
      lastVersion? a.key history = some version) ∧
    (a.metadata.resourceVersion = none → d.meet a = (true, d)) ∧
    ((Table.keys (versions history)).card ≤ max capacity 1 →
      ∀ version, a.metadata.resourceVersion = some version →
        ((d.meet a).1 = true ↔ ∀ last, lastVersion? a.key history = some last → version ≠ last)) := by
  intro d
  have sound := (sound_empty capacity).after history
  refine ⟨⟨sound.distinct, ?_⟩, fun key version member => ?_, fun dropped => ?_, meet_of_unversioned,
    fun room version versioned => ?_⟩
  · have bounded := sound.bounded
    rwa [capacity_after] at bounded
  · exact lastVersion?_of_remembered (Table.get?_of_mem sound.distinct member)
  · obtain ⟨version, versioned, remembered⟩ := remembered_of_dropped dropped
    exact ⟨version, versioned, lastVersion?_of_remembered remembered⟩
  · rw [meet_of_version versioned, judge_fst, remembered_of_room room]
    constructor
    · rintro differ last found rfl
      exact differ found
    · intro differ found
      exact differ version found rfl

section Orders

/-- The definition of a stream arrives in a version. -/
def streamArrival (name version : String) : Arrival where
  choice := 0
  kind := "OrderStream"
  metadata := { name := some name, space := some "streams", resourceVersion := some version }

/-- Two streams have arrived, one of them in two versions. -/
def arrivedStreams : List Arrival :=
  [streamArrival "orders" "2", streamArrival "customers" "1", streamArrival "orders" "1"]

/-- With room for both streams, only the version that came last is a repeat. -/
theorem repeat_of_last_version_is_dropped :
    (((empty 2).after arrivedStreams).meet (streamArrival "orders" "2")).1 = false ∧
      (((empty 2).after arrivedStreams).meet (streamArrival "orders" "1")).1 = true := by
  have room : (Table.keys (versions arrivedStreams)).card ≤ max 2 1 := by decide
  have passes_iff (version : String) :=
    (only_repeats_are_dropped 2 arrivedStreams (streamArrival "orders" version)).2.2.2.2 room version rfl
  constructor
  · rw [← Bool.not_eq_true, passes_iff]
    exact fun differs => differs "2" rfl rfl
  · rw [passes_iff]
    rintro last ⟨⟩
    decide

/-- A stream that was forgotten passes again. -/
example : (((empty 1).after arrivedStreams).meet (streamArrival "customers" "1")).1 = true := by decide

end Orders

end

end Deduplicator

end StreamOperator
