import Mathlib.Data.List.Nodup
import StreamOperator.Proofs.Status.Stability

/-!
# Merging conditions

Pending conditions of different types are merged in one entry at a time (`Condition.merge_cons`): the first
entry of a type takes what is pending for it, the entries behind it have the rest merged in, and what is left
at the end is appended. So entries keep their places and types, later entries of a type are left alone, and
what is appended comes in the order in which it was pending (`Condition.merge_keeps_and_appends`).
-/

set_option autoImplicit false

namespace StreamOperator.Condition

section

variable {c p new existing : Condition} {conditions pending : List Condition} {now type : String}

/-! ## One entry at a time -/

/-- What is pending for other types. -/
def besides (type : String) (pending : List Condition) : List Condition :=
  pending.filter fun p => p.type ≠ type

/-- An entry takes what is pending for its type. -/
def take (now : String) (pending : List Condition) (existing : Condition) : Condition :=
  match ofType? existing.type pending with
  | some p => (p.stamp now).update existing
  | none => existing

theorem ofType?_eq_none (absent : type ∉ conditions.map Condition.type) : ofType? type conditions = none :=
  List.find?_eq_none.2 fun _ member same => absent (of_decide_eq_true same ▸ List.mem_map_of_mem member)

theorem besides_of_absent (absent : type ∉ pending.map Condition.type) : besides type pending = pending :=
  List.filter_eq_self.2 fun _ member =>
    decide_eq_true fun same => absent (same ▸ List.mem_map_of_mem member)

theorem distinct_besides (distinct : (pending.map Condition.type).Nodup) (type : String) :
    ((besides type pending).map Condition.type).Nodup :=
  (List.filter_sublist.map Condition.type).nodup distinct

theorem not_mem_besides : type ∉ (besides type pending).map Condition.type := by
  intro member
  obtain ⟨p, kept, own⟩ := List.mem_map.1 member
  exact of_decide_eq_true (List.mem_filter.1 kept).2 own

theorem mem_of_mem_besides (member : type ∈ (besides new.type pending).map Condition.type) :
    type ∈ pending.map Condition.type :=
  (List.filter_sublist.map Condition.type).subset member

theorem take_of_absent (absent : c.type ∉ pending.map Condition.type) : take now pending c = c := by
  rw [take, ofType?_eq_none absent]

theorem type_take (now : String) (pending : List Condition) (c : Condition) :
    (take now pending c).type = c.type := by
  unfold take
  split
  · rename_i p found
    have own : p.type = c.type := (mem_of_ofType? found).2
    have same : c.type = (p.stamp now).type := own.symm
    exact (type_update same).trans own
  · rfl

theorem set_cons_of_eq (own : existing.type = new.type) (rest : List Condition) :
    set new (existing :: rest) = new.update existing :: rest := if_pos own

theorem set_cons_of_ne (other : existing.type ≠ new.type) (rest : List Condition) :
    set new (existing :: rest) = existing :: set new rest := if_neg other

/-- The first entry takes what is pending for it, and the others have the rest merged in. -/
theorem merge_cons (distinct : (pending.map Condition.type).Nodup) (now : String) (head : Condition)
    (rest : List Condition) :
    merge now (head :: rest) pending =
      take now pending head :: merge now rest (besides head.type pending) := by
  induction pending generalizing head rest with
  | nil => rfl
  | cons p others ih =>
    obtain ⟨absent, distinct⟩ := List.nodup_cons.1 distinct
    show merge now (set (p.stamp now) (head :: rest)) others = _
    by_cases own : head.type = (p.stamp now).type
    · -- Nothing else is pending for the type, so the updated entry stays as it is.
      have stays : ((p.stamp now).update head).type = p.type := type_update own
      have taken : take now (p :: others) head = (p.stamp now).update head := by
        simp [take, ofType?, own]
      have left : besides head.type (p :: others) = others := by
        rw [own, besides, List.filter_cons_of_neg (by simp)]
        exact besides_of_absent absent
      rw [set_cons_of_eq own, ih distinct, take_of_absent (stays ▸ absent),
        besides_of_absent (stays ▸ absent), taken, left]
    · have other : p.type ≠ head.type := Ne.symm own
      have passed : take now (p :: others) head = take now others head := by
        simp [take, ofType?, other]
      have kept : besides head.type (p :: others) = p :: besides head.type others :=
        List.filter_cons_of_pos (decide_eq_true other)
      rw [set_cons_of_ne own, ih distinct, passed, kept]
      rfl

/-- Everything that is pending is appended to an empty list. -/
theorem merge_nil (distinct : (pending.map Condition.type).Nodup) (now : String) :
    merge now [] pending = pending.map (stamp now) := by
  induction pending with
  | nil => rfl
  | cons p others ih =>
    obtain ⟨absent, distinct⟩ := List.nodup_cons.1 distinct
    show merge now [p.stamp now] others = _
    have first : take now others (p.stamp now) = p.stamp now := take_of_absent absent
    rw [merge_cons distinct, first, type_stamp, besides_of_absent absent, ih distinct]
    rfl

/-! ## All entries -/

/-- The entries keep their types. -/
theorem types_take_merge (distinct : (pending.map Condition.type).Nodup) (now : String)
    (conditions : List Condition) :
    ((merge now conditions pending).take conditions.length).map Condition.type =
      conditions.map Condition.type := by
  induction conditions generalizing pending with
  | nil => rfl
  | cons head rest ih =>
    rw [merge_cons distinct, List.length_cons, List.take_succ_cons, List.map_cons, List.map_cons, type_take,
      ih (distinct_besides distinct _)]

/-- What is pending for types that no entry has is appended. -/
theorem drop_merge (distinct : (pending.map Condition.type).Nodup) (now : String)
    (conditions : List Condition) :
    (merge now conditions pending).drop conditions.length =
      (pending.filter fun p => p.type ∉ conditions.map Condition.type).map (stamp now) := by
  induction conditions generalizing pending with
  | nil =>
    rw [List.length_nil, List.drop_zero, merge_nil distinct, List.filter_eq_self.2]
    exact fun _ _ => decide_eq_true List.not_mem_nil
  | cons head rest ih =>
    rw [merge_cons distinct, List.length_cons, List.drop_succ_cons, ih (distinct_besides distinct _), besides,
      List.filter_filter]
    refine congrArg (List.map (stamp now)) (List.filter_congr fun p _ => ?_)
    simp [List.map_cons, List.mem_cons, Bool.and_comm]

/-- An entry is unchanged when nothing is pending for it, or another of its type comes before it. -/
theorem getElem?_merge (distinct : (pending.map Condition.type).Nodup) (now : String)
    {conditions : List Condition} {i : Nat} (entry : conditions[i]? = some c)
    (untouched : c.type ∉ pending.map Condition.type ∨ c.type ∈ (conditions.take i).map Condition.type) :
    (merge now conditions pending)[i]? = some c := by
  induction conditions generalizing pending i with
  | nil => cases entry
  | cons head rest ih =>
    rw [merge_cons distinct]
    cases i with
    | zero =>
      obtain rfl : head = c := Option.some.inj entry
      have absent : head.type ∉ pending.map Condition.type := untouched.resolve_right List.not_mem_nil
      rw [take_of_absent absent]
      rfl
    | succ i =>
      refine ih (distinct_besides distinct _) entry ?_
      rcases untouched with absent | earlier
      · exact .inl fun member => absent (mem_of_mem_besides member)
      · rw [List.take_succ_cons, List.map_cons] at earlier
        rcases List.mem_cons.1 earlier with own | earlier
        · exact .inl (own ▸ not_mem_besides)
        · exact .inr earlier

/-- A type that occurs at most once does not occur more often afterwards. -/
theorem count_merge_le (distinct : (pending.map Condition.type).Nodup) (now : String)
    (single : (conditions.map Condition.type).count type ≤ 1) :
    ((merge now conditions pending).map Condition.type).count type ≤ 1 := by
  have appended : ((merge now conditions pending).drop conditions.length).map Condition.type =
      (pending.filter fun p => p.type ∉ conditions.map Condition.type).map Condition.type := by
    rw [drop_merge distinct, List.map_map]
    rfl
  rw [← List.take_append_drop conditions.length (merge now conditions pending), List.map_append,
    types_take_merge distinct, appended, List.count_append]
  by_cases present : type ∈ conditions.map Condition.type
  · have absent : type ∉
        (pending.filter fun p => p.type ∉ conditions.map Condition.type).map Condition.type := by
      intro member
      obtain ⟨p, kept, rfl⟩ := List.mem_map.1 member
      exact of_decide_eq_true (List.mem_filter.1 kept).2 present
    rw [List.count_eq_zero.2 absent]
    exact single
  · rw [List.count_eq_zero.2 present, Nat.zero_add]
    exact List.nodup_iff_count_le_one.1 ((List.filter_sublist.map Condition.type).nodup distinct) type

/-- When conditions of different types are merged in, entries keep their places and types, and only the
missing types are appended. Entries nothing is pending for, and later ones of a type, are unchanged; of the
others the time moves only with the status. Nothing occurs twice that did not before, and to merge the same
in again at another time changes nothing. -/
theorem merge_keeps_and_appends (distinct : (pending.map Condition.type).Nodup)
    (conditions : List Condition) (now : String) :
    let merged := merge now conditions pending
    ((merged.take conditions.length).map Condition.type = conditions.map Condition.type ∧
      merged.drop conditions.length =
        (pending.filter fun p => p.type ∉ conditions.map Condition.type).map (stamp now)) ∧
    (∀ (i : Nat) (c : Condition), conditions[i]? = some c →
      c.type ∉ pending.map Condition.type ∨ c.type ∈ (conditions.take i).map Condition.type →
      merged[i]? = some c) ∧
    (∀ p ∈ pending, ∃ c, ofType? p.type merged = some c ∧ p.Follows now (ofType? p.type conditions) c) ∧
    (∀ type, (conditions.map Condition.type).count type ≤ 1 → (merged.map Condition.type).count type ≤ 1) ∧
    ∀ later, merge later merged pending = merged :=
  ⟨⟨types_take_merge distinct now conditions, drop_merge distinct now conditions⟩,
    fun _ _ entry untouched => getElem?_merge distinct now entry untouched,
    fun p member => ⟨_, ofType?_merge distinct now conditions member, follows_update p now _⟩,
    fun _ single => count_merge_le distinct now single,
    fun later => merge_merge distinct conditions now later⟩

end

section Orders

/-- The orders run, and something else has been noted of them. -/
def notedConditions : List Condition :=
  [⟨"Noted", isUnknown, none, none, none⟩,
    ⟨ready, isTrue, some "2024-01-01T00:00:00Z", some Reason.running, none⟩]

/-- The orders are reloaded. -/
def reloadConditions : List Condition :=
  [pending error isFalse Reason.reloading "Reloading", pending ready isTrue Reason.reloading "Reloading"]

/-- A stream that is reloaded stays ready since it was, and that it has no error is noted at the end. -/
theorem reload_keeps_time_of_ready : (reloadConditions.map Condition.type).Nodup ∧
    (merge "2024-02-01T00:00:00Z" notedConditions reloadConditions).drop 2 =
      [⟨error, isFalse, some "2024-02-01T00:00:00Z", some Reason.reloading, some "Reloading"⟩] ∧
    ∃ c, ofType? ready (merge "2024-02-01T00:00:00Z" notedConditions reloadConditions) = some c ∧
      c.lastTransitionTime = some "2024-01-01T00:00:00Z" := by
  have distinct : (reloadConditions.map Condition.type).Nodup := by decide
  obtain ⟨⟨-, appended⟩, -, settled, -⟩ :=
    merge_keeps_and_appends distinct notedConditions "2024-02-01T00:00:00Z"
  obtain ⟨c, found, follows⟩ := settled (pending ready isTrue Reason.reloading "Reloading") (by decide)
  exact ⟨distinct, appended.trans (by decide), c, found, follows.kept _ rfl rfl⟩

end Orders

end StreamOperator.Condition
