import StreamOperator.Json.Record

/-!
# What a record is read from

An object is read by its look-ups alone. Whether it is refused, and for which value, is a matter of the
refusals of its keys (`Record.checkAll_congr`), and the record is put together from its fields one by
one (`Record.build_and`). So a change under a key that the record does not know, or that is accepted
before and after, changes nothing of what is read elsewhere.
-/

set_option autoImplicit false

namespace StreamOperator

/-! ## Look-ups in entries -/

namespace Entries

variable {β γ : Type} {entries : List (String × β)}

/-- A key that no entry has is not found. -/
theorem get?_eq_none_of_not_mem {key : String} (absent : key ∉ entries.map Prod.fst) :
    get? key entries = none := by
  induction entries with
  | nil => rfl
  | cons head rest ih =>
    obtain ⟨k, v⟩ := head
    obtain ⟨differ, absent⟩ := not_or.1 (mt List.mem_cons.2 absent)
    rw [get?, if_neg (Ne.symm differ), ih absent]

theorem mem_of_get? {key : String} {value : β} (found : get? key entries = some value) :
    (key, value) ∈ entries := by
  induction entries with
  | nil => cases found
  | cons head rest ih =>
    obtain ⟨k, v⟩ := head
    by_cases same : k = key
    · subst same
      obtain rfl : v = value := by simpa [get?] using found
      exact List.mem_cons_self
    · exact List.mem_cons_of_mem _ (ih (by simpa [get?, same] using found))

theorem get?_map (f : β → γ) (key : String) (entries : List (String × β)) :
    get? key (entries.map fun entry => (entry.1, f entry.2)) = (get? key entries).map f := by
  induction entries with
  | nil => rfl
  | cons head rest ih =>
    rw [List.map_cons, get?, get?, ih]
    split <;> rfl

/-- A table of a function has its values under the names. -/
theorem get?_table (f : String → β) (key : String) (names : List String) :
    get? key (names.map fun name => (name, f name)) = if key ∈ names then some (f key) else none := by
  induction names with
  | nil => rfl
  | cons name rest ih =>
    by_cases same : name = key
    · simp [get?, same]
    · simp [get?, same, ih, Ne.symm same]

theorem get?_append (key : String) (before after : List (String × β)) :
    get? key (before ++ after) = (get? key before).or (get? key after) := by
  induction before with
  | nil => rfl
  | cons head rest ih =>
    rw [List.cons_append, get?, get?, ih]
    split <;> rfl

theorem Sorted.nodup (sorted : Sorted entries) : (entries.map Prod.fst).Nodup := by
  refine List.pairwise_map.2 (sorted.imp fun below same => ?_)
  rw [same] at below
  exact String.lt_irrefl _ below

/-- Entries that are put in one after another are found before those that were there. -/
theorem get?_foldl_insert (distinct : (entries.map Prod.fst).Nodup) (acc : List (String × β))
    (key : String) :
    get? key (entries.foldl (fun sorted entry => insert entry.1 entry.2 sorted) acc)
      = (get? key entries).or (get? key acc) := by
  induction entries generalizing acc with
  | nil => rfl
  | cons head rest ih =>
    obtain ⟨k, v⟩ := head
    obtain ⟨absent, distinct⟩ := List.nodup_cons.1 distinct
    rw [List.foldl_cons, ih distinct]
    by_cases same : k = key
    · subst same
      rw [get?_insert_self, get?_eq_none_of_not_mem absent, get?, if_pos rfl]
      rfl
    · rw [get?_insert_of_ne (Ne.symm same), get?, if_neg same]

theorem get?_ofList (distinct : (entries.map Prod.fst).Nodup) (key : String) :
    get? key (ofList entries) = get? key entries := by
  rw [ofList, get?_foldl_insert distinct]
  exact Option.or_none

/-- Entries that are in order stay as they are. -/
theorem ofList_of_sorted (sorted : Sorted entries) : ofList entries = entries :=
  eq_of_get? (sorted_ofList entries) sorted fun key => get?_ofList sorted.nodup key

/-- Of a list and a dictionary put together the dictionary counts. -/
theorem get?_ofList_append (before : List (String × β)) (d : Dictionary β) (key : String) :
    get? key (ofList (before ++ d.toList)) = (d.get? key).or (get? key (ofList before)) := by
  rw [ofList, List.foldl_append]
  exact get?_foldl_insert d.sorted.nodup _ key

/-- Makes new values of the entries, or drops them. -/
def choose (f : String → β → Option γ) (entries : List (String × β)) : List (String × γ) :=
  entries.filterMap fun entry => (f entry.1 entry.2).map fun value => (entry.1, value)

theorem keys_choose (f : String → β → Option γ) (entries : List (String × β)) :
    ((choose f entries).map Prod.fst).Sublist (entries.map Prod.fst) := by
  induction entries with
  | nil => exact .slnil
  | cons head rest ih =>
    cases chosen : f head.1 head.2 with
    | none => simpa [choose, chosen] using ih.cons head.1
    | some value => simpa [choose, chosen] using ih.cons_cons head.1

theorem get?_choose (f : String → β → Option γ) (distinct : (entries.map Prod.fst).Nodup)
    (key : String) : get? key (choose f entries) = (get? key entries).bind (f key) := by
  induction entries with
  | nil => rfl
  | cons head rest ih =>
    obtain ⟨k, v⟩ := head
    obtain ⟨absent, distinct⟩ := List.nodup_cons.1 distinct
    have ih := ih distinct
    by_cases same : k = key
    · subst same
      rw [get?_eq_none_of_not_mem absent] at ih
      cases chosen : f k v with
      | none => simpa [choose, get?, chosen] using ih
      | some value => simp [choose, get?, chosen]
    · cases chosen : f k v with
      | none => simpa [choose, get?, chosen, same] using ih
      | some value => simpa [choose, get?, chosen, same] using ih

end Entries

/-- The value of a field in an object that was written, if it has one. -/
theorem Json.get?_ofFields {fields : List (String × Option Json)}
    (distinct : (fields.map Prod.fst).Nodup) (key : String) :
    (Json.ofFields fields).field? key = (Entries.get? key fields).join := by
  have written : Json.ofFields fields = .obj (Entries.ofList (Entries.choose (fun _ v => v) fields)) :=
    rfl
  rw [written, Json.field?, Entries.get?_ofList ((Entries.keys_choose _ _).nodup distinct),
    Entries.get?_choose _ distinct]
  cases Entries.get? key fields <;> rfl

/-! ## Fields that nothing looks into -/

namespace OtherFields

variable {names : List String} {values values' : String → Option Json}

theorem ext_get? {o o' : OtherFields names} (same : ∀ key, o.values.get? key = o'.values.get? key) :
    o = o' := by
  obtain ⟨d, _⟩ := o
  obtain ⟨d', _⟩ := o'
  obtain rfl : d = d' := Dictionary.ext_get? same
  rfl

/-- Nothing stands there under another name, and no null. -/
theorem known_of_get? {o : OtherFields names} {key : String} {value : Json}
    (found : o.values.get? key = some value) : key ∈ names ∧ value ≠ .null :=
  o.known (key, value) (Entries.mem_of_get? found)

theorem get?_ofValues (distinct : names.Nodup) (values : String → Option Json) (key : String) :
    (ofValues names values).values.get? key
      = if key ∈ names then (values key).filter (· ≠ .null) else none := by
  have chosen : present names values = Entries.choose (fun _ value => value)
      (names.map fun name => (name, (values name).filter (· ≠ .null))) := by
    rw [Entries.choose, List.filterMap_map]
    rfl
  have keys : (names.map fun name => (name, (values name).filter (· ≠ .null))).map Prod.fst = names := by
    rw [List.map_map]
    exact List.map_id _
  rw [← keys] at distinct
  have found : (ofValues names values).values.get? key = Entries.get? key (present names values) := by
    refine Entries.get?_ofList ?_ key
    rw [chosen]
    exact (Entries.keys_choose _ _).nodup distinct
  rw [found, chosen, Entries.get?_choose _ distinct, Entries.get?_table]
  split <;> rfl

theorem ofValues_congr (distinct : names.Nodup) (same : ∀ key ∈ names, values' key = values key) :
    ofValues names values' = ofValues names values := by
  refine ext_get? fun key => ?_
  rw [get?_ofValues distinct, get?_ofValues distinct]
  split
  · rw [same key ‹_›]
  · rfl

/-- What stands under the names is read as it is. -/
theorem ofValues_eq (distinct : names.Nodup) {o : OtherFields names}
    (found : ∀ key ∈ names, values key = o.values.get? key) : ofValues names values = o := by
  refine ext_get? fun key => ?_
  rw [get?_ofValues distinct]
  split
  · rename_i named
    rw [found key named]
    cases present : o.values.get? key with
    | none => rfl
    | some value => exact Option.filter_eq_some_iff.2 ⟨rfl, decide_eq_true (known_of_get? present).2⟩
  · rename_i unnamed
    cases present : o.values.get? key with
    | none => rfl
    | some value => exact absurd (known_of_get? present).1 unnamed

theorem get?_fields (o : OtherFields names) (key : String) :
    Entries.get? key o.fields = (o.values.get? key).map some := Entries.get?_map some key _

/-- A record is written with fields of its own, which have other names, and with those that nothing looks
into. -/
theorem field?_ofFields {own : List (String × Option Json)} (o : OtherFields names) (keys : List String)
    (owned : own.map Prod.fst = keys) (apart : (keys ++ names).Nodup) (key : String) :
    (Json.ofFields (own ++ o.fields)).field? key
      = if key ∈ names then o.values.get? key else (Entries.get? key own).join := by
  obtain ⟨distinct, -, apart⟩ := List.nodup_append.1 apart
  have all : ((own ++ o.fields).map Prod.fst).Nodup := by
    have keys : o.fields.map Prod.fst = o.values.toList.map Prod.fst := List.map_map
    rw [List.map_append, owned, keys]
    refine List.nodup_append.2 ⟨distinct, o.values.sorted.nodup, fun key member other named => ?_⟩
    obtain ⟨entry, stands, rfl⟩ := List.mem_map.1 named
    exact apart key member _ (o.known entry stands).1
  rw [Json.get?_ofFields all, Entries.get?_append, get?_fields]
  by_cases named : key ∈ names
  · have other : key ∉ own.map Prod.fst := fun member => apart key (owned ▸ member) key named rfl
    rw [if_pos named, Entries.get?_eq_none_of_not_mem other]
    cases o.values.get? key <;> rfl
  · have absent : o.values.get? key = none := by
      cases found : o.values.get? key with
      | none => rfl
      | some _ => exact absurd (known_of_get? found).1 named
    rw [if_neg named, absent, Option.map_none, Option.or_none]

end OtherFields

/-! ## Fields -/

namespace Field

variable {α : Type}

/-- Reads a field from the values under the keys of an object. -/
def read (field : Field α) (values : String → Option Json) : Except DecodeError α :=
  match values field.name, field.absent with
  | some value, _ => field.decode value
  | none, some default => .ok default
  | none, none => .error (.missingField field.name)

theorem read_of_found {field : Field α} {values : String → Option Json} {value : Json}
    (found : values field.name = some value) : field.read values = field.decode value := by
  rw [read, found]

/-- A field that may be absent is read if its value can be decoded. -/
theorem exists_read {field : Field α} {values : String → Option Json}
    (present : ∀ value, values field.name = some value → ∃ a, field.decode value = .ok a)
    (absent : field.absent.isSome = true) : ∃ a, field.read values = .ok a := by
  unfold read
  cases found : values field.name with
  | some value => exact present value found
  | none =>
    obtain ⟨default, absent⟩ := Option.isSome_iff_exists.1 absent
    exact ⟨default, by rw [absent]⟩

theorem read_congr {field : Field α} {values values' : String → Option Json}
    (same : values' field.name = values field.name) : field.read values' = field.read values := by
  rw [read, read, same]

end Field

/-! ## Records -/

namespace Record

variable {α β : Type} {r : Record α} {values : String → Option Json}
  {fields fields' : List (String × Json)}

theorem build_const (a : α) (values : String → Option Json) : (const a).build values = pure a := rfl

/-- A record is built field by field, in the order of declaration. -/
theorem build_and (r : Record (α → β)) (field : Field α) (values : String → Option Json) :
    (r.and field).build values = (do let f ← r.build values; f <$> field.read values) := by
  simp only [Record.and, Field.read]
  congr 1
  funext f
  cases values field.name with
  | some value => rfl
  | none => cases field.absent <;> rfl

/-- Fields that nothing looks into are read besides those of the record. -/
theorem build_andOthers {names : List String} (r : Record (OtherFields names → β))
    (values : String → Option Json) : r.andOthers.build values
      = (do let f ← r.build values; pure (f (.ofValues names values))) :=
  map_eq_pure_bind _ _

/-- The error for the value under a key, if there is one that is refused. -/
def refusal? (r : Record α) (key : String) (value : Json) : Option DecodeError :=
  match r.check key value with
  | .ok _ => none
  | .error e => some e

/-- An object is refused for the first of its values that are refused. -/
theorem checkAll_eq (r : Record α) (fields : List (String × Json)) : r.checkAll fields =
    match Entries.choose r.refusal? fields with
    | [] => .ok ()
    | (_, e) :: _ => .error e := by
  induction fields with
  | nil => rfl
  | cons head rest ih =>
    obtain ⟨key, value⟩ := head
    cases judged : r.check key value with
    | ok _ => simpa [checkAll, Entries.choose, refusal?, judged] using ih
    | error e => simp [checkAll, Entries.choose, refusal?, judged]

/-- Objects with the same refusals under each key are refused alike. -/
theorem checkAll_congr (sorted : Entries.Sorted fields) (sorted' : Entries.Sorted fields')
    (same : ∀ key, (Entries.get? key fields').bind (r.refusal? key)
      = (Entries.get? key fields).bind (r.refusal? key)) :
    r.checkAll fields' = r.checkAll fields := by
  have chosen : ∀ {fields : List (String × Json)}, Entries.Sorted fields →
      Entries.Sorted (Entries.choose r.refusal? fields) := fun sorted =>
    List.pairwise_map.1 ((List.pairwise_map.2 sorted).sublist (Entries.keys_choose _ _))
  rw [checkAll_eq, checkAll_eq, Entries.eq_of_get? (chosen sorted') (chosen sorted) fun key => ?_]
  rw [Entries.get?_choose _ sorted'.nodup, Entries.get?_choose _ sorted.nodup, same]

/-- A value that the decoder of its field reads is not refused. -/
theorem refusal?_eq_none {decode : Decoder β} {key : String} {value : Json}
    (check : r.check key value = (fun _ => ()) <$> decode value)
    (decoded : ∃ b, decode value = .ok b) : r.refusal? key value = none := by
  obtain ⟨b, decoded⟩ := decoded
  rw [refusal?, check, decoded]
  rfl

/-- What matters of a record is read alike from objects with the same refusals. -/
theorem map_ofFields_congr (f : α → β) (sorted : Entries.Sorted fields)
    (sorted' : Entries.Sorted fields')
    (refusals : ∀ key, (Entries.get? key fields').bind (r.refusal? key)
      = (Entries.get? key fields).bind (r.refusal? key))
    (builds : f <$> r.build (fun key => Entries.get? key fields')
      = f <$> r.build (fun key => Entries.get? key fields)) :
    f <$> r.ofFields fields' = f <$> r.ofFields fields := by
  rw [ofFields, ofFields, checkAll_congr sorted sorted' refusals]
  cases r.checkAll fields with
  | error e => rfl
  | ok _ => exact builds

end Record

end StreamOperator
