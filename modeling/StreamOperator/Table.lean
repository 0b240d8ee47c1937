/-!
# Tables

Finite maps with keys of any type, as lists of entries. Setting a key replaces its entry in place, or
adds one at the end.
-/

set_option autoImplicit false

namespace StreamOperator

abbrev Table (κ β : Type) := List (κ × β)

namespace Table

variable {κ β : Type} [DecidableEq κ]

/-- The value under a key. -/
def get? (key : κ) : Table κ β → Option β
  | [] => none
  | (k, v) :: rest => if k = key then some v else get? key rest

/-- Puts a value under a key. -/
def set (key : κ) (value : β) : Table κ β → Table κ β
  | [] => [(key, value)]
  | (k, v) :: rest => if k = key then (key, value) :: rest else (k, v) :: set key value rest

/-- Drops the entries of a key. -/
def erase (key : κ) (table : Table κ β) : Table κ β := table.filter fun entry => entry.1 ≠ key

def contains (key : κ) (table : Table κ β) : Bool := (get? key table).isSome

@[simp] theorem get?_set_self (key : κ) (value : β) (table : Table κ β) :
    get? key (set key value table) = some value := by
  induction table with
  | nil => simp [set, get?]
  | cons entry rest ih =>
    obtain ⟨k, v⟩ := entry
    by_cases h : k = key <;> simp [set, get?, h, ih]

theorem get?_set_of_ne {key other : κ} (differ : other ≠ key) (value : β) (table : Table κ β) :
    get? other (set key value table) = get? other table := by
  induction table with
  | nil => simp [set, get?, Ne.symm differ]
  | cons entry rest ih =>
    obtain ⟨k, v⟩ := entry
    by_cases h : k = key
    · subst h
      simp [set, get?, Ne.symm differ]
    · simp [set, get?, h, ih]

@[simp] theorem get?_erase_self (key : κ) (table : Table κ β) :
    get? key (erase key table) = none := by
  induction table with
  | nil => rfl
  | cons entry rest ih =>
    obtain ⟨k, v⟩ := entry
    by_cases h : k = key
    · simpa [erase, h] using ih
    · simpa [erase, h, get?] using ih

theorem get?_erase_of_ne {key other : κ} (differ : other ≠ key) (table : Table κ β) :
    get? other (erase key table) = get? other table := by
  induction table with
  | nil => rfl
  | cons entry rest ih =>
    obtain ⟨k, v⟩ := entry
    by_cases h : k = key
    · subst h
      simpa [erase, get?, Ne.symm differ] using ih
    · simp only [erase, ne_eq, h, not_false_eq_true, decide_true, List.filter_cons_of_pos, get?]
      split
      · rfl
      · simpa [erase] using ih

theorem get?_set (key other : κ) (value : β) (table : Table κ β) :
    get? other (set key value table) = if other = key then some value else get? other table := by
  split
  · rename_i same
    subst same
    exact get?_set_self other value table
  · rename_i differ
    exact get?_set_of_ne differ value table

theorem get?_erase (key other : κ) (table : Table κ β) :
    get? other (erase key table) = if other = key then none else get? other table := by
  split
  · rename_i same
    subst same
    exact get?_erase_self other table
  · rename_i differ
    exact get?_erase_of_ne differ table

/-- A value that is found is one of the table's entries. -/
theorem mem_of_get? {key : κ} {value : β} {table : Table κ β} (h : get? key table = some value) :
    (key, value) ∈ table := by
  induction table with
  | nil => simp [get?] at h
  | cons entry rest ih =>
    obtain ⟨k, v⟩ := entry
    by_cases same : k = key
    · subst same
      obtain rfl : v = value := by simpa [get?] using h
      exact List.mem_cons_self
    · exact List.mem_cons_of_mem _ (ih (by simpa [get?, same] using h))

/-! ## Tables without repeated keys -/

/-- No key has two entries. -/
def Distinct (table : Table κ β) : Prop := (table.map Prod.fst).Nodup

variable {key : κ} {value : β} {entry : κ × β} {table : Table κ β}

theorem get?_of_mem (distinct : Distinct table) (member : (key, value) ∈ table) :
    get? key table = some value := by
  induction table with
  | nil => cases member
  | cons head rest ih =>
    obtain ⟨k, v⟩ := head
    obtain ⟨absent, distinct⟩ := List.nodup_cons.1 distinct
    rcases List.mem_cons.1 member with same | member
    · cases same
      simp [get?]
    · have differ : k ≠ key := by
        rintro rfl
        exact absent (List.mem_map.2 ⟨_, member, rfl⟩)
      simpa [get?, differ] using ih distinct member

theorem mem_erase : entry ∈ erase key table ↔ entry ∈ table ∧ entry.1 ≠ key := by
  simp [erase]

theorem Distinct.erase (distinct : Distinct table) : Distinct (erase key table) :=
  (List.filter_sublist.map Prod.fst).nodup distinct

/-- The entry that was set is the only one of its key. -/
theorem mem_of_mem_set (distinct : Distinct table) (member : entry ∈ set key value table) :
    entry = (key, value) ∨ entry ∈ table ∧ entry.1 ≠ key := by
  induction table with
  | nil => exact .inl (by simpa [set] using member)
  | cons head rest ih =>
    obtain ⟨k, v⟩ := head
    obtain ⟨absent, distinct⟩ := List.nodup_cons.1 distinct
    by_cases same : k = key
    · subst same
      rw [set, if_pos rfl] at member
      rcases List.mem_cons.1 member with own | member
      · exact .inl own
      · refine .inr ⟨List.mem_cons_of_mem _ member, fun own => absent ?_⟩
        exact List.mem_map.2 ⟨entry, member, own⟩
    · rw [set, if_neg same] at member
      rcases List.mem_cons.1 member with rfl | member
      · exact .inr ⟨List.mem_cons_self, same⟩
      · rcases ih distinct member with own | ⟨kept, other⟩
        · exact .inl own
        · exact .inr ⟨List.mem_cons_of_mem _ kept, other⟩

theorem Distinct.set (distinct : Distinct table) : Distinct (set key value table) := by
  induction table with
  | nil => simp [Distinct, Table.set]
  | cons head rest ih =>
    obtain ⟨k, v⟩ := head
    obtain ⟨absent, distinct'⟩ := List.nodup_cons.1 distinct
    by_cases same : k = key
    · subst same
      rw [Table.set, if_pos rfl]
      exact distinct
    · rw [Table.set, if_neg same]
      refine List.nodup_cons.2 ⟨?_, ih distinct'⟩
      intro member
      obtain ⟨entry, member, own⟩ := List.mem_map.1 member
      rcases mem_of_mem_set distinct' member with rfl | ⟨kept, -⟩
      · exact same own.symm
      · exact absent (List.mem_map.2 ⟨entry, kept, own⟩)

end Table

end StreamOperator
