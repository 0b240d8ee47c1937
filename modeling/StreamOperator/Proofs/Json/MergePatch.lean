import StreamOperator.Proofs.Json.Record

/-!
# What a merge patch changes

A patch is described by what stands under a key, or under a path of keys, after it was applied. A patch
that names one path changes the value there (`Json.at?_patchAt`) and nothing that is neither above nor
below it (`Json.at?_patchAt_of_apart`), whatever the document is.
-/

set_option autoImplicit false

namespace StreamOperator

namespace Entries

variable {β γ : Type}

/-- What is put in under a key is all that is taken out under it again. -/
theorem erase_insert (key : String) (value : β) (entries : List (String × β)) :
    erase key (insert key value entries) = erase key entries := by
  induction entries with
  | nil => simp [insert, erase]
  | cons head rest ih =>
    obtain ⟨k, v⟩ := head
    by_cases same : key = k
    · simp [insert, erase, same]
    · by_cases below : key < k
      · simp [insert, erase, same, below]
      · simpa [insert, erase, same, below, Ne.symm same] using ih

/-- Below all other keys a value is put in first. -/
theorem insert_of_below {key : String} {entries : List (String × β)}
    (below : ∀ entry ∈ entries, key < entry.1) (value : β) :
    insert key value entries = (key, value) :: entries := by
  cases entries with
  | nil => rfl
  | cons head rest =>
    have first := below head List.mem_cons_self
    have differ : key ≠ head.1 := fun same => String.lt_irrefl head.1 (same ▸ first)
    rw [insert, if_neg differ, if_pos first]

theorem erase_insert_of_ne {key other : String} {entries : List (String × β)} (sorted : Sorted entries)
    (differ : other ≠ key) (value : β) :
    erase other (insert key value entries) = insert key value (erase other entries) := by
  refine eq_of_get? (sorted_erase (sorted_insert sorted)) (sorted_insert (sorted_erase sorted)) fun k => ?_
  by_cases taken : k = other
  · subst taken
    rw [get?_erase_self, get?_insert_of_ne differ, get?_erase_self]
  · rw [get?_erase_of_ne taken]
    by_cases own : k = key
    · subst own
      rw [get?_insert_self, get?_insert_self]
    · rw [get?_insert_of_ne own, get?_insert_of_ne own, get?_erase_of_ne taken]

theorem insert_map (f : β → γ) (key : String) (value : β) (entries : List (String × β)) :
    insert key (f value) (entries.map fun entry => (entry.1, f entry.2))
      = (insert key value entries).map fun entry => (entry.1, f entry.2) := by
  induction entries with
  | nil => rfl
  | cons head rest ih =>
    obtain ⟨k, v⟩ := head
    by_cases same : key = k
    · simp [insert, same]
    · by_cases below : key < k <;> simp [insert, same, below, ih]

theorem erase_map (f : β → γ) (key : String) (entries : List (String × β)) :
    erase key (entries.map fun entry => (entry.1, f entry.2))
      = (erase key entries).map fun entry => (entry.1, f entry.2) := by
  rw [erase, List.filter_map]
  rfl

end Entries

namespace Json

variable {document : Json} {key : String}

/-! ## Objects -/

theorem get?_fieldsOf (value : Json) (key : String) :
    Entries.get? key value.fieldsOf = value.field? key := by cases value <;> rfl

theorem areCanonicalFields_iff {fields : List (String × Json)} :
    areCanonicalFields fields = true ↔ ∀ field ∈ fields, isCanonical field.2 = true := by
  induction fields with
  | nil => simp [areCanonicalFields]
  | cons field rest ih => simp [areCanonicalFields, ih]

theorem areCanonical_iff {items : List Json} :
    areCanonical items = true ↔ ∀ item ∈ items, isCanonical item = true := by
  induction items with
  | nil => simp [areCanonical]
  | cons item rest ih => simp [areCanonical, ih]

theorem isCanonical_obj_iff {fields : List (String × Json)} : isCanonical (obj fields) = true ↔
    Entries.Sorted fields ∧ ∀ field ∈ fields, isCanonical field.2 = true := by
  rw [isCanonical, Bool.and_eq_true, decide_eq_true_eq, areCanonicalFields_iff]

theorem sorted_fieldsOf (canonical : document.isCanonical = true) :
    Entries.Sorted document.fieldsOf := by
  cases document with
  | obj fields => exact (isCanonical_obj_iff.1 canonical).1
  | _ => exact List.Pairwise.nil

/-- What stands in an object, or null, is in canonical form if the object is. -/
theorem isCanonical_field (canonical : document.isCanonical = true) (key : String) :
    ((document.field? key).getD null).isCanonical = true := by
  cases found : document.field? key with
  | none => rfl
  | some value =>
    cases document with
    | obj fields => exact (isCanonical_obj_iff.1 canonical).2 _ (Entries.mem_of_get? found)
    | _ => cases found

theorem isCanonical_insert {fields : List (String × Json)} {value : Json}
    (canonical : isCanonical (obj fields) = true) (key : String) (form : value.isCanonical = true) :
    isCanonical (obj (Entries.insert key value fields)) = true := by
  obtain ⟨sorted, values⟩ := isCanonical_obj_iff.1 canonical
  refine isCanonical_obj_iff.2 ⟨Entries.sorted_insert sorted, fun field member => ?_⟩
  rcases Entries.mem_insert member with rfl | earlier
  · exact form
  · exact values field earlier

theorem isCanonical_erase {fields : List (String × Json)} (canonical : isCanonical (obj fields) = true)
    (key : String) : isCanonical (obj (Entries.erase key fields)) = true := by
  obtain ⟨sorted, values⟩ := isCanonical_obj_iff.1 canonical
  exact isCanonical_obj_iff.2
    ⟨Entries.sorted_erase sorted, fun field member => values field (List.mem_filter.1 member).1⟩

/-! ## Patches of objects -/

/-- What a change leaves of a value: null removes it. -/
def changed (before : Option Json) : Json → Option Json
  | null => none
  | change => some ((before.getD null).mergePatch change)

theorem changed_of_ne_null {change : Json} (other : change ≠ null) (before : Option Json) :
    changed before change = some ((before.getD null).mergePatch change) := by
  cases change <;> first | rfl | exact absurd rfl other

theorem mergeFields_erase (fields rest : List (String × Json)) :
    mergeFields fields ((key, null) :: rest) = mergeFields (Entries.erase key fields) rest := by
  rw [mergeFields]

theorem mergeFields_insert {change : Json} (other : change ≠ null) (fields rest : List (String × Json)) :
    mergeFields fields ((key, change) :: rest) =
      mergeFields
        (Entries.insert key (((Entries.get? key fields).getD null).mergePatch change) fields) rest := by
  rw [mergeFields]
  exact other

/-- A patch changes the fields that it names, each from what it was. -/
theorem get?_mergeFields {changes : List (String × Json)} (distinct : (changes.map Prod.fst).Nodup)
    (fields : List (String × Json)) (key : String) : Entries.get? key (mergeFields fields changes) =
      match Entries.get? key changes with
      | some change => changed (Entries.get? key fields) change
      | none => Entries.get? key fields := by
  induction changes generalizing fields with
  | nil => rfl
  | cons head rest ih =>
    obtain ⟨k, change⟩ := head
    obtain ⟨absent, others⟩ := List.nodup_cons.1 distinct
    by_cases removal : change = null
    · subst removal
      rw [mergeFields_erase, ih others]
      by_cases same : k = key
      · subst same
        rw [Entries.get?_eq_none_of_not_mem absent, Entries.get?_erase_self, Entries.get?, if_pos rfl]
        rfl
      · rw [Entries.get?_erase_of_ne (Ne.symm same), Entries.get?, if_neg same]
    · rw [mergeFields_insert removal, ih others]
      by_cases same : k = key
      · subst same
        rw [Entries.get?_eq_none_of_not_mem absent, Entries.get?_insert_self, Entries.get?, if_pos rfl]
        exact (changed_of_ne_null removal _).symm
      · rw [Entries.get?_insert_of_ne (Ne.symm same), Entries.get?, if_neg same]

/-- After a patch there is an object, with the fields of before apart from those that were changed. -/
theorem field?_mergePatch {changes : List (String × Json)} (distinct : (changes.map Prod.fst).Nodup)
    (document : Json) (key : String) : (document.mergePatch (obj changes)).field? key =
      match Entries.get? key changes with
      | some change => changed (document.field? key) change
      | none => document.field? key := by
  rw [mergePatch, ← get?_fieldsOf document]
  exact get?_mergeFields distinct _ key

/-- A patch of one field puts the patched value in its place. -/
theorem mergePatch_field {change : Json} (other : change ≠ null) (document : Json) (key : String) :
    document.mergePatch (obj [(key, change)]) = obj (Entries.insert key
      (((document.field? key).getD null).mergePatch change) document.fieldsOf) := by
  rw [mergePatch, mergeFields_insert other, mergeFields, get?_fieldsOf]

theorem mergePatch_object (document : Json) (key : String) (changes : List (String × Json)) :
    document.mergePatch (obj [(key, obj changes)]) = obj (Entries.insert key
      (((document.field? key).getD null).mergePatch (obj changes)) document.fieldsOf) := by
  have other : obj changes ≠ null := nofun
  exact mergePatch_field other document key

theorem mergePatch_text (document : Json) (key text : String) :
    document.mergePatch (obj [(key, str text)])
      = obj (Entries.insert key (str text) document.fieldsOf) := by
  have other : str text ≠ null := nofun
  rw [mergePatch_field other, mergePatch]
  nofun

theorem mergePatch_removal (document : Json) (key : String) :
    document.mergePatch (obj [(key, null)]) = obj (Entries.erase key document.fieldsOf) := by
  rw [mergePatch, mergeFields_erase, mergeFields]

mutual

/-- A patch in canonical form leaves a value in canonical form. -/
theorem isCanonical_mergePatch (change document : Json) (canonical : document.isCanonical = true)
    (form : change.isCanonical = true) : (document.mergePatch change).isCanonical = true := by
  match change with
  | obj changes =>
    rw [mergePatch]
    refine isCanonical_mergeFields changes document.fieldsOf ?_ (isCanonical_obj_iff.1 form).2
    cases document with
    | obj fields => exact canonical
    | _ => rfl
  | null | bool _ | int _ | float _ | str _ | arr _ => exact form

theorem isCanonical_mergeFields (changes fields : List (String × Json))
    (canonical : isCanonical (obj fields) = true)
    (forms : ∀ change ∈ changes, change.2.isCanonical = true) :
    isCanonical (obj (mergeFields fields changes)) = true := by
  match changes with
  | [] => exact canonical
  | (key, change) :: rest =>
    obtain ⟨form, others⟩ := List.forall_mem_cons.1 forms
    by_cases removal : change = null
    · subst removal
      rw [mergeFields_erase]
      exact isCanonical_mergeFields rest _ (isCanonical_erase canonical key) others
    · rw [mergeFields_insert removal]
      have before : ((Entries.get? key fields).getD null).isCanonical = true :=
        @isCanonical_field (obj fields) canonical key
      have merged := isCanonical_mergePatch change _ before form
      exact isCanonical_mergeFields rest _ (isCanonical_insert canonical key merged) others

end

/-! ## Paths -/

/-- What stands under a path of keys. -/
def at? : List String → Json → Option Json
  | [], value => some value
  | key :: path, value => (value.field? key).bind (at? path)

/-- A patch that changes what stands under a path. -/
def patchAt : List String → Json → Json
  | [], change => change
  | key :: path, change => obj [(key, patchAt path change)]

/-- Neither of the paths leads through the end of the other. -/
def Apart (path other : List String) : Prop := ¬path <+: other ∧ ¬other <+: path

/-- The documents have the same under every path that is apart from some. -/
def SameApartFrom (paths : List (List String)) (before after : Json) : Prop :=
  ∀ other, (∀ path ∈ paths, Apart path other) → at? other after = at? other before

theorem at?_null {path : List String} (longer : path ≠ []) : at? path null = none := by
  cases path with
  | nil => exact absurd rfl longer
  | cons key path => rfl

theorem at?_getD_null {path : List String} (longer : path ≠ []) (value : Option Json) :
    at? path (value.getD null) = value.bind (at? path) := by
  cases value with
  | none => exact at?_null longer
  | some value => rfl

theorem patchAt_ne_null {path : List String} (longer : path ≠ []) (change : Json) :
    patchAt path change ≠ null := by
  cases path with
  | nil => exact absurd rfl longer
  | cons key path => nofun

theorem isCanonical_patchAt {change : Json} (form : change.isCanonical = true) (path : List String) :
    (patchAt path change).isCanonical = true := by
  induction path with
  | nil => exact form
  | cons key rest ih =>
    exact isCanonical_obj_iff.2 ⟨List.pairwise_singleton _ _, List.forall_mem_singleton.2 ih⟩

theorem field?_patchAt (path : List String) (change document : Json) (key other : String) :
    (document.mergePatch (patchAt (key :: path) change)).field? other =
      if key = other then changed (document.field? key) (patchAt path change)
      else document.field? other := by
  have distinct : ([(key, patchAt path change)].map Prod.fst).Nodup := by simp
  rw [patchAt, field?_mergePatch distinct]
  by_cases same : key = other
  · subst same
    simp [Entries.get?]
  · simp [Entries.get?, same]

/-- A patch of a path changes what stands there. -/
theorem at?_patchAt {path : List String} (longer : path ≠ []) (change document : Json) :
    at? path (document.mergePatch (patchAt path change)) = changed (at? path document) change := by
  induction path generalizing document with
  | nil => exact absurd rfl longer
  | cons key rest ih =>
    rw [at?, field?_patchAt, if_pos rfl, at?]
    by_cases last : rest = []
    · subst last
      have whole : at? [] = some := rfl
      rw [patchAt, whole, Option.bind_fun_some, Option.bind_fun_some]
    · rw [changed_of_ne_null (patchAt_ne_null last change), Option.bind_some, ih last,
        at?_getD_null last]

/-- A patch of a path leaves everything apart from it in place. -/
theorem at?_patchAt_of_apart {path other : List String} (apart : Apart path other)
    (change document : Json) :
    at? other (document.mergePatch (patchAt path change)) = at? other document := by
  induction path generalizing other document with
  | nil => exact absurd List.nil_prefix apart.1
  | cons key rest ih =>
    cases other with
    | nil => exact absurd List.nil_prefix apart.2
    | cons k others =>
      rw [at?, at?, field?_patchAt]
      by_cases same : key = k
      · subst same
        have deeper : Apart rest others :=
          ⟨fun below => apart.1 (List.cons_prefix_cons.2 ⟨rfl, below⟩),
            fun below => apart.2 (List.cons_prefix_cons.2 ⟨rfl, below⟩)⟩
        have inside : rest ≠ [] := by
          rintro rfl
          exact deeper.1 List.nil_prefix
        have beside : others ≠ [] := by
          rintro rfl
          exact deeper.2 List.nil_prefix
        rw [if_pos rfl, changed_of_ne_null (patchAt_ne_null inside change), Option.bind_some, ih deeper,
          at?_getD_null beside]
      · rw [if_neg same]

theorem SameApartFrom.trans {paths paths' : List (List String)} {before between after : Json}
    (first : SameApartFrom paths before between) (second : SameApartFrom paths' between after) :
    SameApartFrom (paths ++ paths') before after := fun other apart =>
  (second other fun path member => apart path (List.mem_append_right _ member)).trans
    (first other fun path member => apart path (List.mem_append_left _ member))

theorem sameApartFrom_patchAt (path : List String) (change document : Json) :
    SameApartFrom [path] document (document.mergePatch (patchAt path change)) := fun _ apart =>
  at?_patchAt_of_apart (apart path List.mem_cons_self) change document

end Json

end StreamOperator
