/-!
# Dictionaries

Finite maps from strings, kept as a list of entries in strictly ascending order
of their keys. The order makes the list a normal form: two dictionaries with the
same look-ups are equal (`Dictionary.ext_get?`), so labels and annotations can be
compared, printed and changed without a choice of order.

The list operations live in `Entries`, since the fields of a JSON object use them
without the proof of order.
-/

set_option autoImplicit false

namespace StreamOperator

namespace Entries

variable {β : Type}

/-- The value under a key: that of the first entry with the key. -/
def get? (key : String) : List (String × β) → Option β
  | [] => none
  | (k, v) :: rest => if k = key then some v else get? key rest

/-- Puts a value under a key, at the place the order of the keys gives it. -/
def insert (key : String) (value : β) : List (String × β) → List (String × β)
  | [] => [(key, value)]
  | (k, v) :: rest =>
    if key = k then (key, value) :: rest
    else if key < k then (key, value) :: (k, v) :: rest
    else (k, v) :: insert key value rest

/-- Drops the entries of a key. -/
def erase (key : String) (entries : List (String × β)) : List (String × β) :=
  entries.filter fun entry => entry.1 ≠ key

/-- The keys ascend strictly. -/
def Sorted (entries : List (String × β)) : Prop :=
  entries.Pairwise fun a b => a.1 < b.1

instance (entries : List (String × β)) : Decidable (Sorted entries) :=
  inferInstanceAs (Decidable (List.Pairwise _ _))

/-- The entries in the order of their keys; of two entries with one key the later counts. -/
def ofList (entries : List (String × β)) : List (String × β) :=
  entries.foldl (fun sorted entry => insert entry.1 entry.2 sorted) []

theorem lt_trichotomy (a b : String) : a < b ∨ a = b ∨ b < a := by
  by_cases h : a < b
  · exact .inl h
  · by_cases h' : b < a
    · exact .inr (.inr h')
    · exact .inr (.inl (String.le_antisymm (String.not_lt.1 h') (String.not_lt.1 h)))

theorem mem_insert {key : String} {value : β} {entries : List (String × β)} {e : String × β}
    (h : e ∈ insert key value entries) : e = (key, value) ∨ e ∈ entries := by
  induction entries with
  | nil => simpa [insert] using h
  | cons head rest ih =>
    obtain ⟨k, v⟩ := head
    simp only [insert] at h
    split at h
    · simp only [List.mem_cons] at h ⊢
      rcases h with h | h
      · exact .inl h
      · exact .inr (.inr h)
    · split at h
      · simpa using h
      · simp only [List.mem_cons] at h ⊢
        rcases h with h | h
        · exact .inr (.inl h)
        · rcases ih h with h | h
          · exact .inl h
          · exact .inr (.inr h)

theorem sorted_insert {key : String} {value : β} {entries : List (String × β)}
    (h : Sorted entries) : Sorted (insert key value entries) := by
  induction entries with
  | nil => simp [insert, Sorted]
  | cons head rest ih =>
    obtain ⟨k, v⟩ := head
    rw [Sorted, List.pairwise_cons] at h
    simp only [insert]
    split
    · rename_i same
      subst same
      exact List.pairwise_cons.2 ⟨h.1, h.2⟩
    · rename_i differ
      split
      · rename_i below
        refine List.pairwise_cons.2 ⟨fun e he => ?_, List.pairwise_cons.2 h⟩
        rcases List.mem_cons.1 he with rfl | he
        · exact below
        · exact String.lt_trans below (h.1 e he)
      · rename_i notBelow
        refine List.pairwise_cons.2 ⟨fun e he => ?_, ih h.2⟩
        rcases mem_insert he with rfl | he
        · rcases lt_trichotomy key k with h' | h' | h'
          · exact absurd h' notBelow
          · exact absurd h' differ
          · exact h'
        · exact h.1 e he

theorem sorted_erase {key : String} {entries : List (String × β)}
    (h : Sorted entries) : Sorted (erase key entries) :=
  List.Pairwise.filter _ h

theorem sorted_ofList (entries : List (String × β)) : Sorted (ofList entries) := by
  suffices ∀ acc : List (String × β), Sorted acc →
      Sorted (entries.foldl (fun sorted entry => insert entry.1 entry.2 sorted) acc) from
    this [] List.Pairwise.nil
  induction entries with
  | nil => exact fun acc h => h
  | cons e rest ih => exact fun acc h => ih _ (sorted_insert h)

theorem mem_of_mem_ofList {entries : List (String × β)} {entry : String × β}
    (member : entry ∈ ofList entries) : entry ∈ entries := by
  suffices ∀ acc : List (String × β),
      entry ∈ entries.foldl (fun sorted entry => insert entry.1 entry.2 sorted) acc →
        entry ∈ acc ∨ entry ∈ entries by
    exact (this [] member).resolve_left List.not_mem_nil
  clear member
  induction entries with
  | nil => exact fun acc member => .inl member
  | cons head rest ih =>
    intro acc member
    rcases ih _ member with earlier | later
    · rcases mem_insert earlier with rfl | earlier
      · exact .inr List.mem_cons_self
      · exact .inl earlier
    · exact .inr (List.mem_cons_of_mem _ later)

theorem get?_insert_self (key : String) (value : β) (entries : List (String × β)) :
    get? key (insert key value entries) = some value := by
  induction entries with
  | nil => simp [insert, get?]
  | cons head rest ih =>
    obtain ⟨k, v⟩ := head
    simp only [insert]
    split
    · simp [get?]
    · rename_i differ
      split
      · simp [get?]
      · simp [get?, Ne.symm differ, ih]

theorem get?_insert_of_ne {key other : String} (differ : other ≠ key) (value : β)
    (entries : List (String × β)) :
    get? other (insert key value entries) = get? other entries := by
  induction entries with
  | nil => simp [insert, get?, Ne.symm differ]
  | cons head rest ih =>
    obtain ⟨k, v⟩ := head
    simp only [insert]
    split
    · rename_i same
      subst same
      simp [get?, Ne.symm differ]
    · split
      · simp [get?, Ne.symm differ]
      · simp only [get?, ih]

theorem get?_erase_self (key : String) (entries : List (String × β)) :
    get? key (erase key entries) = none := by
  induction entries with
  | nil => rfl
  | cons head rest ih =>
    obtain ⟨k, v⟩ := head
    by_cases h : k = key
    · simpa [erase, h] using ih
    · simpa [erase, h, get?] using ih

theorem get?_erase_of_ne {key other : String} (differ : other ≠ key)
    (entries : List (String × β)) :
    get? other (erase key entries) = get? other entries := by
  induction entries with
  | nil => rfl
  | cons head rest ih =>
    obtain ⟨k, v⟩ := head
    by_cases h : k = key
    · subst h
      simpa [erase, get?, Ne.symm differ] using ih
    · simp only [erase, ne_eq, h, not_false_eq_true, decide_true, List.filter_cons_of_pos, get?]
      split
      · rfl
      · simpa [erase] using ih

theorem get?_eq_none_of_lt {key : String} {entries : List (String × β)}
    (h : ∀ e ∈ entries, key < e.1) : get? key entries = none := by
  induction entries with
  | nil => rfl
  | cons head rest ih =>
    obtain ⟨k, v⟩ := head
    have hk : key < k := h (k, v) (by simp)
    have differ : k ≠ key := fun same => String.lt_irrefl k (same ▸ hk)
    simp only [get?, differ, if_false]
    exact ih fun e he => h e (by simp [he])

/-- Sorted entries are determined by their look-ups. -/
theorem eq_of_get? {a b : List (String × β)} (ha : Sorted a) (hb : Sorted b)
    (same : ∀ key, get? key a = get? key b) : a = b := by
  induction a generalizing b with
  | nil =>
    cases b with
    | nil => rfl
    | cons head rest => have := same head.1; simp [get?] at this
  | cons x xs ih =>
    obtain ⟨k, v⟩ := x
    rw [Sorted, List.pairwise_cons] at ha
    cases b with
    | nil => have := same k; simp [get?] at this
    | cons y ys =>
      obtain ⟨k', v'⟩ := y
      rw [Sorted, List.pairwise_cons] at hb
      have hkk : k = k' := by
        rcases lt_trichotomy k k' with h | h | h
        · have := same k
          have below : ∀ e ∈ (k', v') :: ys, k < e.1 := by
            intro e he
            rcases List.mem_cons.1 he with rfl | he
            · exact h
            · exact String.lt_trans h (hb.1 e he)
          rw [get?_eq_none_of_lt below] at this
          simp [get?] at this
        · exact h
        · have := same k'
          have below : ∀ e ∈ (k, v) :: xs, k' < e.1 := by
            intro e he
            rcases List.mem_cons.1 he with rfl | he
            · exact h
            · exact String.lt_trans h (ha.1 e he)
          rw [get?_eq_none_of_lt below] at this
          simp [get?] at this
      subst hkk
      have hv : v = v' := by have := same k; simpa [get?] using this
      subst hv
      congr 1
      refine ih ha.2 hb.2 fun key => ?_
      by_cases hk : k = key
      · subst hk
        rw [get?_eq_none_of_lt ha.1, get?_eq_none_of_lt hb.1]
      · have := same key
        simpa [get?, hk] using this

end Entries

/-- A finite map from strings. -/
structure Dictionary (β : Type) where
  entries : List (String × β)
  sorted : Entries.Sorted entries
  deriving DecidableEq

namespace Dictionary

variable {β : Type}

def empty : Dictionary β := ⟨[], List.Pairwise.nil⟩

instance : Inhabited (Dictionary β) := ⟨empty⟩

/-- The dictionary of a list of entries; of two with one key the later counts. -/
def ofList (entries : List (String × β)) : Dictionary β :=
  ⟨Entries.ofList entries, Entries.sorted_ofList entries⟩

def get? (d : Dictionary β) (key : String) : Option β := Entries.get? key d.entries

def contains (d : Dictionary β) (key : String) : Bool := (d.get? key).isSome

def insert (d : Dictionary β) (key : String) (value : β) : Dictionary β :=
  ⟨Entries.insert key value d.entries, Entries.sorted_insert d.sorted⟩

def erase (d : Dictionary β) (key : String) : Dictionary β :=
  ⟨Entries.erase key d.entries, Entries.sorted_erase d.sorted⟩

def toList (d : Dictionary β) : List (String × β) := d.entries

theorem ext_get? {a b : Dictionary β} (same : ∀ key, a.get? key = b.get? key) : a = b := by
  cases a with | mk xs hx =>
  cases b with | mk ys hy =>
  have : xs = ys := Entries.eq_of_get? hx hy same
  subst this
  rfl

@[simp] theorem get?_empty (key : String) : (empty : Dictionary β).get? key = none := rfl

@[simp] theorem get?_insert_self (d : Dictionary β) (key : String) (value : β) :
    (d.insert key value).get? key = some value :=
  Entries.get?_insert_self key value d.entries

theorem get?_insert_of_ne (d : Dictionary β) {key other : String} (differ : other ≠ key)
    (value : β) : (d.insert key value).get? other = d.get? other :=
  Entries.get?_insert_of_ne differ value d.entries

theorem get?_insert (d : Dictionary β) (key other : String) (value : β) :
    (d.insert key value).get? other = if other = key then some value else d.get? other := by
  split
  · rename_i same
    subst same
    exact get?_insert_self d other value
  · rename_i differ
    exact get?_insert_of_ne d differ value

@[simp] theorem get?_erase_self (d : Dictionary β) (key : String) :
    (d.erase key).get? key = none :=
  Entries.get?_erase_self key d.entries

theorem get?_erase_of_ne (d : Dictionary β) {key other : String} (differ : other ≠ key) :
    (d.erase key).get? other = d.get? other :=
  Entries.get?_erase_of_ne differ d.entries

end Dictionary

end StreamOperator
