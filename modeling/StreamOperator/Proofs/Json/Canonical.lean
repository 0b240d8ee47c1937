import StreamOperator.Proofs.Json.Record
import StreamOperator.Proofs.Json.Text

/-!
# Equality of values and their canonical form

Two values are the same (`Json.Same`) if they are the same constant, number or text, if they are arrays
with the same items in the same order, or if they are objects with the same keys and the same value
under each. The order of the fields is none of it. The canonical form decides it: two values have the
same form exactly if they are the same (`Json.canonical_eq_iff`).
-/

set_option autoImplicit false

namespace StreamOperator

/-! ## The last value under a key -/

namespace Entries

variable {β γ : Type} {entries : List (String × β)} {key : String} {value : β}

/-- The value under a key: that of the last entry with the key. -/
def last? (key : String) (entries : List (String × β)) : Option β := get? key entries.reverse

/-- Putting entries in order keeps the last value of each key. -/
theorem get?_ofList_eq_last? (key : String) (entries : List (String × β)) :
    get? key (ofList entries) = last? key entries := by
  suffices ∀ reversed : List (String × β),
      get? key (reversed.foldr (fun entry sorted => insert entry.1 entry.2 sorted) []) =
        get? key reversed by
    rw [ofList, List.foldl_eq_foldr_reverse]
    exact this entries.reverse
  intro reversed
  induction reversed with
  | nil => rfl
  | cons head rest ih =>
    obtain ⟨k, v⟩ := head
    rw [List.foldr_cons]
    by_cases same : k = key
    · subst same
      rw [get?_insert_self, get?, if_pos rfl]
    · rw [get?_insert_of_ne (Ne.symm same), ih, get?, if_neg same]

/-- Entries in order are equal if the last values of their keys are. -/
theorem ofList_eq_iff {a b : List (String × β)} :
    ofList a = ofList b ↔ ∀ key, last? key a = last? key b := by
  refine ⟨fun same key => ?_, fun same => ?_⟩
  · rw [← get?_ofList_eq_last?, same, get?_ofList_eq_last?]
  · refine eq_of_get? (sorted_ofList a) (sorted_ofList b) fun key => ?_
    rw [get?_ofList_eq_last?, same key, get?_ofList_eq_last?]

theorem last?_map (f : β → γ) (key : String) (entries : List (String × β)) :
    last? key (entries.map fun entry => (entry.1, f entry.2)) = (last? key entries).map f := by
  rw [last?, ← List.map_reverse, get?_map, last?]

theorem mem_of_last? (found : last? key entries = some value) : (key, value) ∈ entries :=
  List.mem_reverse.1 (mem_of_get? found)

end Entries

namespace Json

/-! ## The canonical form -/

theorem sizeOf_lt_of_mem {field : String × Json} {fields : List (String × Json)}
    (member : field ∈ fields) : sizeOf field.2 < 1 + sizeOf fields := by
  have parts : sizeOf field = 1 + sizeOf field.1 + sizeOf field.2 := rfl
  have := List.sizeOf_lt_of_mem member
  omega

theorem canonicalItems_eq_map (items : List Json) : canonicalItems items = items.map canonical := by
  induction items with
  | nil => rfl
  | cons item rest ih => rw [canonicalItems, ih, List.map_cons]

theorem canonicalFields_eq_map (fields : List (String × Json)) :
    canonicalFields fields = fields.map fun field => (field.1, canonical field.2) := by
  induction fields with
  | nil => rfl
  | cons field rest ih => rw [canonicalFields, ih, List.map_cons]

theorem areFloatFree_iff {items : List Json} :
    areFloatFree items = true ↔ ∀ item ∈ items, isFloatFree item = true := by
  induction items with
  | nil => simp [areFloatFree]
  | cons item rest ih => simp [areFloatFree, ih]

theorem areFloatFreeFields_iff {fields : List (String × Json)} :
    areFloatFreeFields fields = true ↔ ∀ field ∈ fields, isFloatFree field.2 = true := by
  induction fields with
  | nil => simp [areFloatFreeFields]
  | cons field rest ih => simp [areFloatFreeFields, ih]

/-- The canonical form has no numbers that the value has not. -/
theorem isFloatFree_canonical (value : Json) (plain : value.isFloatFree = true) :
    value.canonical.isFloatFree = true := by
  match value with
  | null | bool _ | int _ | str _ => exact plain
  | float _ => exact plain
  | arr items =>
    have items_plain := areFloatFree_iff.1 plain
    rw [canonical, isFloatFree, canonicalItems_eq_map, areFloatFree_iff]
    intro form member
    obtain ⟨item, own, rfl⟩ := List.mem_map.1 member
    exact isFloatFree_canonical item (items_plain item own)
  | obj fields =>
    have fields_plain := areFloatFreeFields_iff.1 plain
    rw [canonical, isFloatFree, canonicalFields_eq_map, areFloatFreeFields_iff]
    intro form member
    obtain ⟨field, own, rfl⟩ := List.mem_map.1 (Entries.mem_of_mem_ofList member)
    have smaller : sizeOf field.2 < 1 + sizeOf fields := sizeOf_lt_of_mem own
    exact isFloatFree_canonical field.2 (fields_plain field own)
termination_by sizeOf value

/-! ## Equality of values -/

/-- Equality of values: objects are equal by what stands under their keys, of equal keys the last. -/
inductive Same : Json → Json → Prop where
  | null : Same null null
  | bool (value : Bool) : Same (bool value) (bool value)
  | int (value : Int) : Same (int value) (int value)
  | float (value : Binary64) : Same (float value) (float value)
  | str (value : String) : Same (str value) (str value)
  | arr {as bs : List Json} (length : as.length = bs.length)
      (items : ∀ (i : Nat) (a b : Json), as[i]? = some a → bs[i]? = some b → Same a b) :
      Same (arr as) (arr bs)
  | obj {as bs : List (String × Json)}
      (keys : ∀ key, (Entries.last? key as).isSome = (Entries.last? key bs).isSome)
      (fields : ∀ (key : String) (a b : Json), Entries.last? key as = some a →
        Entries.last? key bs = some b → Same a b) :
      Same (obj as) (obj bs)

/-- The same values have the same form. -/
theorem Same.canonical_eq {a b : Json} (same : Same a b) : a.canonical = b.canonical := by
  induction same with
  | null => rfl
  | bool => rfl
  | int => rfl
  | float => rfl
  | str => rfl
  | @arr as bs length items ih =>
    rw [canonical, canonical, canonicalItems_eq_map, canonicalItems_eq_map]
    congr 1
    refine List.ext_getElem (by simpa using length) fun i below below' => ?_
    rw [List.length_map] at below below'
    rw [List.getElem_map, List.getElem_map]
    exact ih i as[i] bs[i] (List.getElem?_eq_getElem below) (List.getElem?_eq_getElem below')
  | @obj as bs keys fields ih =>
    rw [canonical, canonical, canonicalFields_eq_map, canonicalFields_eq_map]
    congr 1
    refine Entries.ofList_eq_iff.2 fun key => ?_
    rw [Entries.last?_map, Entries.last?_map]
    have present := keys key
    cases first : Entries.last? key as with
    | none =>
      rw [first, Option.isSome_none, eq_comm, Option.isSome_eq_false_iff, Option.isNone_iff_eq_none]
        at present
      rw [present]
    | some v =>
      rw [first, Option.isSome_some, eq_comm, Option.isSome_iff_exists] at present
      obtain ⟨w, second⟩ := present
      rw [second, Option.map_some, Option.map_some, ih key v w first second]

/-- Values with the same form are the same. -/
theorem same_of_canonical_eq (a b : Json) (form : a.canonical = b.canonical) : Same a b := by
  match a, b with
  | arr as, arr bs =>
    have forms : as.map canonical = bs.map canonical := by
      simpa [canonical, canonicalItems_eq_map] using form
    refine .arr (by simpa using congrArg List.length forms) fun i a b first second => ?_
    have member : a ∈ as := List.mem_of_getElem? first
    have items : a.canonical = b.canonical := by
      simpa [List.getElem?_map, first, second] using congrArg (fun forms => forms[i]?) forms
    exact same_of_canonical_eq a b items
  | obj as, obj bs =>
    have forms : ∀ key, (Entries.last? key as).map canonical = (Entries.last? key bs).map canonical := by
      intro key
      rw [canonical, canonical, obj.injEq, Entries.ofList_eq_iff] at form
      simpa [canonicalFields_eq_map, Entries.last?_map] using form key
    refine .obj (fun key => ?_) fun key a b first second => ?_
    · simpa using congrArg Option.isSome (forms key)
    · have member : (key, a) ∈ as := Entries.mem_of_last? first
      have smaller : sizeOf a < 1 + sizeOf as := sizeOf_lt_of_mem member
      have values : a.canonical = b.canonical := by simpa [first, second] using forms key
      exact same_of_canonical_eq a b values
  | null, b => cases b <;> simp [canonical] at form; exact .null
  | bool _, b => cases b <;> simp [canonical] at form; subst form; exact .bool _
  | int _, b => cases b <;> simp [canonical] at form; subst form; exact .int _
  | float _, b => cases b <;> simp [canonical] at form; subst form; exact .float _
  | str _, b => cases b <;> simp [canonical] at form; subst form; exact .str _
  | arr _, null | arr _, bool _ | arr _, int _ | arr _, float _ | arr _, str _ | arr _, obj _ =>
    simp [canonical] at form
  | obj _, null | obj _, bool _ | obj _, int _ | obj _, float _ | obj _, str _ | obj _, arr _ =>
    simp [canonical] at form
termination_by sizeOf a

theorem canonical_eq_iff {a b : Json} : a.canonical = b.canonical ↔ Same a b :=
  ⟨same_of_canonical_eq a b, Same.canonical_eq⟩

end Json

end StreamOperator
