import StreamOperator.Phase

/-!
# Statuses that stay

A status that was written once is not written again: after conditions of different types were merged in
at one time, to merge them in at any other time changes nothing (`Condition.merge_merge`), so nothing is
left to advance (`Status.advance_of_advance`). What is written is read back as it was
(`StreamStatus.decode_encode`, `ClassStatus.decode_encode`).
-/

set_option autoImplicit false

namespace StreamOperator

/-! ## Conditions -/

namespace Condition

variable {p q new existing : Condition} {conditions pending : List Condition} {now later type : String}

/-- The condition of a type that counts: the first. -/
def ofType? (type : String) (conditions : List Condition) : Option Condition :=
  conditions.find? fun c => c.type = type

theorem mem_of_ofType? (found : ofType? type conditions = some p) : p ∈ conditions ∧ p.type = type := by
  unfold ofType? at found
  exact ⟨List.mem_of_find?_eq_some found, by simpa using List.find?_some found⟩

theorem type_update (same : existing.type = new.type) : (new.update existing).type = new.type := by
  unfold update
  split
  · rfl
  · exact same

@[simp] theorem type_stamp (now : String) (p : Condition) : (p.stamp now).type = p.type := rfl

theorem ofType?_set_self (new : Condition) (conditions : List Condition) :
    ofType? new.type (set new conditions)
      = some (((ofType? new.type conditions).map new.update).getD new) := by
  induction conditions with
  | nil => simp [set, ofType?]
  | cons head rest ih =>
    by_cases own : head.type = new.type
    · simp [set, ofType?, own, type_update own]
    · simpa [set, ofType?, own] using ih

theorem ofType?_set_of_ne (differ : new.type ≠ type) (conditions : List Condition) :
    ofType? type (set new conditions) = ofType? type conditions := by
  induction conditions with
  | nil => simp [set, ofType?, differ]
  | cons head rest ih =>
    by_cases own : head.type = new.type
    · have other : (new.update head).type ≠ type := type_update own ▸ differ
      simp [set, ofType?, own, other, differ]
    · by_cases other : head.type = type
      · simp [set, ofType?, other, Ne.symm differ]
      · simpa [set, ofType?, own, other] using ih

/-- Nothing is set where the condition of the type would not be updated. -/
theorem set_of_update (found : ofType? new.type conditions = some existing)
    (same : new.update existing = existing) : set new conditions = conditions := by
  induction conditions with
  | nil => cases found
  | cons head rest ih =>
    by_cases own : head.type = new.type
    · obtain rfl : head = existing := by simpa [ofType?, own] using found
      simp [set, own, same]
    · have later : ofType? new.type rest = some existing := by simpa [ofType?, own] using found
      simp [set, own, ih later]

/-- Nothing is pending for a type: what counts for it stays. -/
theorem ofType?_merge_of_absent (absent : type ∉ pending.map Condition.type) (now : String)
    (conditions : List Condition) :
    ofType? type (merge now conditions pending) = ofType? type conditions := by
  induction pending generalizing conditions with
  | nil => rfl
  | cons p others ih =>
    obtain ⟨differ, absent⟩ := not_or.1 (mt List.mem_cons.2 absent)
    have other : (p.stamp now).type ≠ type := Ne.symm differ
    exact (ih absent _).trans (ofType?_set_of_ne other conditions)

/-- What counts for a type is updated by what is pending for it. -/
theorem ofType?_merge (distinct : (pending.map Condition.type).Nodup) (now : String)
    (conditions : List Condition) (member : p ∈ pending) :
    ofType? p.type (merge now conditions pending) =
      some (((ofType? p.type conditions).map (p.stamp now).update).getD (p.stamp now)) := by
  induction pending generalizing conditions with
  | nil => cases member
  | cons q others ih =>
    obtain ⟨absent, distinct⟩ := List.nodup_cons.1 distinct
    rcases List.mem_cons.1 member with rfl | member
    · exact (ofType?_merge_of_absent absent now _).trans (ofType?_set_self (p.stamp now) conditions)
    · have differ : (q.stamp now).type ≠ p.type := fun same => absent (same ▸ List.mem_map_of_mem member)
      refine (ih distinct _ member).trans ?_
      rw [ofType?_set_of_ne differ]

/-- Says of a condition that it is what a pending one comes to where another one counted before. -/
structure Follows (p : Condition) (now : String) (before : Option Condition) (c : Condition) : Prop where
  status : c.status = p.status
  reason : c.reason = p.reason
  message : c.message = p.message
  /-- The time of the last transition stays with the status. -/
  kept : ∀ old, before = some old → old.status = p.status → c.lastTransitionTime = old.lastTransitionTime
  /-- A new status comes with the time of the pending condition, or the present one. -/
  moved : (∀ old, before = some old → old.status ≠ p.status) →
    c.lastTransitionTime = some (p.lastTransitionTime.getD now)

theorem follows_update (p : Condition) (now : String) (before : Option Condition) :
    p.Follows now before ((before.map (p.stamp now).update).getD (p.stamp now)) := by
  cases before with
  | none => exact ⟨rfl, rfl, rfl, nofun, fun _ => rfl⟩
  | some old =>
    rw [Option.map_some, Option.getD_some]
    by_cases same : old.status = p.status
    · have updated : (p.stamp now).update old = { old with reason := p.reason, message := p.message } :=
        if_neg (Decidable.not_not.2 same)
      rw [updated]
      refine ⟨same, rfl, rfl, ?_, fun differ => absurd same (differ old rfl)⟩
      rintro _ ⟨⟩ _
      rfl
    · have updated : (p.stamp now).update old = p.stamp now := if_pos same
      rw [updated]
      refine ⟨rfl, rfl, rfl, ?_, fun _ => rfl⟩
      rintro _ ⟨⟩ again
      exact absurd again same

/-- The condition of its type says what the pending one says. -/
def Settled (p : Condition) (conditions : List Condition) : Prop :=
  ∃ c, ofType? p.type conditions = some c ∧
    c.status = p.status ∧ c.reason = p.reason ∧ c.message = p.message

/-- What is settled stays at whatever time it is set again. -/
theorem Settled.set_self (settled : p.Settled conditions) (now : String) :
    set (p.stamp now) conditions = conditions := by
  obtain ⟨c, found, status, reason, message⟩ := settled
  refine set_of_update found ?_
  simp [update, stamp, ← status, ← reason, ← message]

/-- Whatever was merged in is settled if its types differ. -/
theorem settled_merge (distinct : (pending.map Condition.type).Nodup) (conditions : List Condition)
    (now : String) : ∀ p ∈ pending, p.Settled (merge now conditions pending) := by
  intro p member
  have follows := follows_update p now (ofType? p.type conditions)
  exact ⟨_, ofType?_merge distinct now conditions member, follows.status, follows.reason, follows.message⟩

theorem merge_of_settled (settled : ∀ p ∈ pending, p.Settled conditions) (now : String) :
    merge now conditions pending = conditions := by
  induction pending with
  | nil => rfl
  | cons q rest ih =>
    obtain ⟨first, others⟩ := List.forall_mem_cons.1 settled
    show merge now (Condition.set (q.stamp now) conditions) rest = conditions
    rw [first.set_self, ih others]

/-- Conditions of different types that were merged in are not changed by merging them in again. -/
theorem merge_merge (distinct : (pending.map Condition.type).Nodup) (conditions : List Condition)
    (now later : String) :
    merge later (merge now conditions pending) pending = merge now conditions pending :=
  merge_of_settled (settled_merge distinct conditions now) later

end Condition

/-! ## Statuses -/

namespace Status

variable {P : Type} [DecidableEq P] {s s' : Status P} {phase : P} {pending : List Condition}
  {now later : String}

theorem eq_of_advance (advanced : s.advance now phase pending = some s') :
    s' = ⟨some phase, Condition.merge now s.conditions pending⟩ := by
  simp only [advance] at advanced
  split at advanced
  · cases advanced
  · exact (Option.some.inj advanced).symm

/-- A status that has been advanced has nothing left to advance. -/
theorem advance_of_advance (distinct : (pending.map Condition.type).Nodup)
    (advanced : s.advance now phase pending = some s') : s'.advance later phase pending = none := by
  obtain rfl := eq_of_advance advanced
  exact if_pos ⟨rfl, Condition.merge_merge distinct _ _ _⟩

/-- Whether there is something to advance does not depend on the time. -/
theorem advance_eq_none_iff (distinct : (pending.map Condition.type).Nodup) (now later : String) :
    s.advance later phase pending = none ↔ s.advance now phase pending = none := by
  have merged : ∀ now later, Condition.merge now s.conditions pending = s.conditions →
      Condition.merge later s.conditions pending = s.conditions := fun now later same => by
    rw [← same, Condition.merge_merge distinct, same]
  simp only [advance, ite_eq_left_iff, reduceCtorEq, imp_false, Decidable.not_not]
  exact and_congr_right fun _ => ⟨merged later now, merged now later⟩

end Status

/-! ## Reading what was written -/

/-- The items of a list are read back if each of them is. -/
theorem Decode.items_map {α : Type} {decode : Decoder α} {encode : α → Json}
    (inverse : ∀ a, decode (encode a) = .ok a) (xs : List α) :
    Decode.items decode (xs.map encode) = .ok xs := by
  induction xs with
  | nil => rfl
  | cons x rest ih =>
    simp only [List.map_cons, Decode.items, inverse, ih]
    rfl

theorem Condition.decode_encode (owner : String) (c : Condition) :
    Condition.decode owner c.encode = .ok c := by
  obtain ⟨type, status, time, reason, message⟩ := c
  cases time <;> cases reason <;> cases message <;> rfl

/-- A status is read back if its phase is. -/
theorem Status.decode_encode {P : Type} {decodePhase : Decoder P} {encodePhase : P → Json}
    (inverse : ∀ p, Decode.optional decodePhase (encodePhase p) = .ok (some p))
    (name condition : String) (s : Status P) :
    Record.struct name (Status.record decodePhase condition) (s.encode encodePhase) = .ok s := by
  obtain ⟨phase, conditions⟩ := s
  have readConditions : Decode.list (Condition.decode condition)
      (Encode.list Condition.encode conditions) = .ok conditions :=
    Decode.items_map (Condition.decode_encode condition) conditions
  have readPhase : Decode.optional decodePhase (Encode.optional encodePhase phase) = .ok phase := by
    cases phase with
    | none => rfl
    | some p => exact inverse p
  show (do
    Record.checkAll _ [("conditions", Encode.list Condition.encode conditions),
      ("phase", Encode.optional encodePhase phase)]
    Record.build _ _ : Except DecodeError (Status P)) = _
  have differ : "conditions" ≠ "phase" := by decide
  simp only [Record.checkAll, Status.record, Record.and, Record.const, Field.optional, Field.defaulted,
    Entries.get?, if_pos, if_neg differ, if_neg differ.symm, readConditions, readPhase]
  rfl

theorem StreamPhase.decode_encode (p : StreamPhase) : Decode.optional decode p.encode = .ok (some p) := by
  cases p <;> rfl

theorem ClassPhase.decode_encode (p : ClassPhase) : Decode.optional decode p.encode = .ok (some p) := by
  cases p <;> rfl

theorem StreamStatus.decode_encode (s : StreamStatus) : StreamStatus.decode s.encode = .ok s :=
  Status.decode_encode StreamPhase.decode_encode _ _ s

theorem ClassStatus.decode_encode (s : ClassStatus) : ClassStatus.decode s.encode = .ok s :=
  Status.decode_encode ClassPhase.decode_encode _ _ s

end StreamOperator
