import Mathlib.Data.List.Perm.Subperm
import StreamOperator.Proofs.Json.Record
import StreamOperator.StreamClass.Registry

/-!
# What the registry of stream classes holds

A registration takes effect for its own kind only and never exceeds the capacity. A class that the
registry holds is held until a class with the same id is registered for its kind or gives it up.
-/

set_option autoImplicit false

namespace StreamOperator

namespace Entries

variable {β : Type} {key : String} {entries : List (String × β)}

/-- A value takes the place of the one under its key, or one place more. -/
theorem length_insert_le (sorted : Sorted entries) (value : β) : (insert key value entries).length ≤
    entries.length + if (get? key entries).isSome then 0 else 1 := by
  induction entries with
  | nil => simp [insert, get?]
  | cons head rest ih =>
    obtain ⟨k, v⟩ := head
    have sorted' := List.pairwise_cons.1 sorted
    by_cases same : key = k
    · simp [insert, get?, same]
    · by_cases below : key < k
      · have absent : get? key ((k, v) :: rest) = none := by
          apply get?_eq_none_of_lt
          intro e member
          rcases List.mem_cons.1 member with rfl | member
          · exact below
          · exact String.lt_trans below (sorted'.1 e member)
        simp [insert, same, below, absent]
      · have shorter := ih sorted'.2
        simp only [insert, same, below, get?, Ne.symm same, if_false, List.length_cons]
        omega

theorem length_erase_le : (erase key entries).length ≤ entries.length :=
  List.length_filter_le _ _

end Entries

namespace ClassRegistry

variable {r r' : ClassRegistry} {c d : StreamClass} {kind : String}

/-- The registry serves the kind of a class by this very class. -/
def Holds (r : ClassRegistry) (c : StreamClass) : Prop := r.get? c.spec.kindRef = some c

/-- The registry has no more classes than it has room for. -/
def Fits (r : ClassRegistry) : Prop := r.size ≤ r.capacity

theorem fits_empty (capacity : Nat) : (empty capacity).Fits := Nat.zero_le _

/-- What a registration does, and what it takes: the kind is free and there is room, or it is served
by a class with the same id. -/
theorem insert_ok (inserted : r.insert c = .ok r') :
    r' = { r with entries := r.entries.insert c.spec.kindRef c } ∧
      (r.get? c.spec.kindRef = none ∧ r.size < r.capacity ∨
        ∃ serving, r.get? c.spec.kindRef = some serving ∧ serving.id = c.id) := by
  cases found : r.get? c.spec.kindRef with
  | none =>
    simp only [insert, found] at inserted
    split at inserted
    · cases inserted
    · rename_i room
      cases inserted
      exact ⟨rfl, .inl ⟨rfl, Nat.lt_of_not_le room⟩⟩
  | some serving =>
    simp only [insert, found] at inserted
    split at inserted
    · cases inserted
    · rename_i same
      cases inserted
      exact ⟨rfl, .inr ⟨serving, rfl, Decidable.of_not_not same⟩⟩

theorem insert_of_room (free : r.get? c.spec.kindRef = none) (room : r.size < r.capacity) :
    r.insert c = .ok { r with entries := r.entries.insert c.spec.kindRef c } := by
  simp [insert, free, Nat.not_le_of_lt room]

theorem insert_of_full (free : r.get? c.spec.kindRef = none) (full : r.capacity ≤ r.size) :
    ∃ e, r.insert c = .error e := by
  simp [insert, free, full]

theorem insert_of_serving (found : r.get? c.spec.kindRef = some d) (same : d.id = c.id) :
    r.insert c = .ok { r with entries := r.entries.insert c.spec.kindRef c } := by
  simp [insert, found, same]

/-- A class is refused a kind only when another id serves it, or none. -/
theorem id_ne_of_insert_error {e : Failure} (refused : r.insert c = .error e)
    (found : r.get? c.spec.kindRef = some d) : d.id ≠ c.id := by
  intro same
  simp [insert, found, same] at refused

theorem get?_of_insert (inserted : r.insert c = .ok r') : r'.get? kind =
    if kind = c.spec.kindRef then some c else r.get? kind := by
  rw [(insert_ok inserted).1]
  exact Dictionary.get?_insert _ _ _ _

theorem get?_remove : (r.remove c).get? kind =
    if kind = c.spec.kindRef ∧ r.serves c = true then none else r.get? kind := by
  unfold remove
  by_cases serves : r.serves c = true
  · rw [if_pos serves]
    by_cases same : kind = c.spec.kindRef
    · subst same
      rw [if_pos ⟨rfl, serves⟩]
      exact Dictionary.get?_erase_self _ _
    · rw [if_neg fun h => same h.1]
      exact Dictionary.get?_erase_of_ne _ same
  · rw [if_neg serves, if_neg fun h => serves h.2]

/-- A class that was registered is held. -/
theorem holds_of_insert (inserted : r.insert c = .ok r') : r'.Holds c := by
  rw [Holds, get?_of_insert inserted, if_pos rfl]

/-- A registration leaves the classes with other ids in place: their kinds are refused to it. -/
theorem Holds.insert (holds : r.Holds d) (other : d.id ≠ c.id) (inserted : r.insert c = .ok r') :
    r'.Holds d := by
  rw [Holds, get?_of_insert inserted, if_neg]
  · exact holds
  · intro same
    rcases (insert_ok inserted).2 with ⟨free, -⟩ | ⟨serving, found, own⟩
    · rw [← same, holds] at free
      cases free
    · rw [← same, holds] at found
      obtain rfl := Option.some.inj found
      exact other own

/-- A class gives up no kind that a class with another id serves. -/
theorem Holds.remove (holds : r.Holds d) (other : d.id ≠ c.id) : (r.remove c).Holds d := by
  rw [Holds, get?_remove, if_neg]
  · exact holds
  · rintro ⟨same, serves⟩
    unfold ClassRegistry.serves at serves
    rw [← same, holds] at serves
    exact other (by simpa using serves)

/-! ## Room -/

/-- The room that a registration takes: none when it takes the place of another one. -/
def demand (r : ClassRegistry) (c : StreamClass) : Nat :=
  if (r.get? c.spec.kindRef).isSome then 0 else 1

theorem size_of_insert (inserted : r.insert c = .ok r') : r'.size ≤ r.size + r.demand c := by
  rw [(insert_ok inserted).1]
  exact Entries.length_insert_le r.entries.sorted c

theorem capacity_of_insert (inserted : r.insert c = .ok r') : r'.capacity = r.capacity := by
  rw [(insert_ok inserted).1]

theorem size_remove_le : (r.remove c).size ≤ r.size := by
  unfold remove
  split
  · exact Entries.length_erase_le
  · exact Nat.le_refl _

@[simp] theorem capacity_remove : (r.remove c).capacity = r.capacity := by
  unfold remove
  split <;> rfl

theorem Fits.insert (fits : r.Fits) (inserted : r.insert c = .ok r') : r'.Fits := by
  unfold Fits
  rw [capacity_of_insert inserted]
  refine Nat.le_trans (size_of_insert inserted) ?_
  rcases (insert_ok inserted).2 with ⟨free, room⟩ | ⟨serving, found, -⟩
  · rw [demand, free]
    exact room
  · rw [demand, found]
    exact fits

theorem Fits.remove (fits : r.Fits) : (r.remove c).Fits := by
  unfold Fits
  rw [capacity_remove]
  exact Nat.le_trans size_remove_le fits

/-- Where there is room, who serves the kind of a class decides alone whether it is registered. -/
theorem insert_congr (same : r'.get? c.spec.kindRef = r.get? c.spec.kindRef)
    (room : r.size + r.demand c ≤ r.capacity) (room' : r'.size + r'.demand c ≤ r'.capacity) :
    (∃ next next', r.insert c = .ok next ∧ r'.insert c = .ok next') ∨
      ∃ e, r.insert c = .error e ∧ r'.insert c = .error e := by
  unfold demand at room room'
  rw [same] at room'
  cases found : r.get? c.spec.kindRef with
  | none =>
    have free' := same.trans found
    rw [found] at room room'
    exact .inl ⟨_, _, insert_of_room found room, insert_of_room free' room'⟩
  | some serving =>
    have found' := same.trans found
    by_cases own : serving.id = c.id
    · exact .inl ⟨_, _, insert_of_serving found own, insert_of_serving found' own⟩
    · right
      simp [insert, found, found', own]

/-- A registry is told by its capacity and what it finds. -/
theorem ext_get? (capacity : r'.capacity = r.capacity) (same : ∀ kind, r'.get? kind = r.get? kind) :
    r' = r := by
  cases r
  cases r'
  obtain rfl : _ = _ := capacity
  exact congrArg _ (Dictionary.ext_get? same)

/-- There are no more different kinds that are served than classes. -/
theorem length_le_size {kinds : List String} (distinct : kinds.Nodup)
    (served : ∀ kind ∈ kinds, (r.get? kind).isSome = true) : kinds.length ≤ r.size := by
  have listed : kinds ⊆ r.entries.toList.map Prod.fst := by
    intro kind member
    obtain ⟨c, found⟩ := Option.isSome_iff_exists.1 (served kind member)
    exact List.mem_map.2 ⟨_, Entries.mem_of_get? found, rfl⟩
  simpa [size] using (distinct.subperm listed).length_le

end ClassRegistry

end StreamOperator
