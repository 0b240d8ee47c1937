import Mathlib.Data.List.Induction
import StreamOperator.Proofs.Stream.Checksum
import StreamOperator.Stream.Environment

/-!
# Secrets and the environment of a job

The fields that refer to secrets are taken out of a payload one after another, and the sources are
collected on the way. Together this is a filter of the fields and one pass over the list of their names,
each at its first occurrence (`Environment.splitSecrets_eq`). So what the fields hold reaches a job through
its sources alone: payloads that agree on all other fields give it the same variables (`secrets_stay_out`).
-/

set_option autoImplicit false

namespace StreamOperator

/-! ## Entries without some keys -/

namespace Entries

variable {β : Type} {keys : List String} {key : String} {entries : List (String × β)}

/-- The entries under none of the keys. -/
def without (keys : List String) (entries : List (String × β)) : List (String × β) :=
  entries.filter fun entry => entry.1 ∉ keys

theorem get?_without (keys : List String) (key : String) (entries : List (String × β)) :
    get? key (without keys entries) = if key ∈ keys then none else get? key entries := by
  induction entries with
  | nil => exact (ite_self none).symm
  | cons head rest ih =>
    obtain ⟨k, v⟩ := head
    unfold without at ih ⊢
    by_cases listed : k ∈ keys
    · rw [List.filter_cons_of_neg (by simpa using listed), ih]
      split
      · rfl
      · rename_i unlisted
        have differ : k ≠ key := fun same => unlisted (same ▸ listed)
        rw [get?, if_neg differ]
    · rw [List.filter_cons_of_pos (by simpa using listed), get?, get?, ih]
      by_cases same : k = key
      · subst same
        simp [listed]
      · simp [same]

theorem last?_without (keys : List String) (key : String) (entries : List (String × β)) :
    last? key (without keys entries) = if key ∈ keys then none else last? key entries := by
  rw [last?, without, ← List.filter_reverse]
  exact get?_without keys key entries.reverse

theorem erase_of_absent (absent : get? key entries = none) : erase key entries = entries := by
  induction entries with
  | nil => rfl
  | cons head rest ih =>
    obtain ⟨k, v⟩ := head
    by_cases same : k = key
    · simp [get?, same] at absent
    · rw [get?, if_neg same] at absent
      rw [erase, List.filter_cons_of_pos (by simpa using same)]
      exact congrArg _ (ih absent)

/-- One more key is taken out after the others. -/
theorem erase_without (key : String) (keys : List String) (entries : List (String × β)) :
    erase key (without keys entries) = without (keys ++ [key]) entries := by
  rw [erase, without, List.filter_filter, without]
  refine List.filter_congr fun entry _ => ?_
  simp [and_comm]

end Entries

/-! ## Payloads without some fields -/

namespace Json

variable {keys : List String} {as bs : List (String × Json)}

/-- An object without some of its fields; other values have none. -/
def without (keys : List String) : Json → Json
  | obj fields => obj (Entries.without keys fields)
  | other => other

theorem field?_without (keys : List String) (value : Json) (key : String) :
    (value.without keys).field? key = if key ∈ keys then none else value.field? key := by
  cases value with
  | obj fields => exact Entries.get?_without keys key fields
  | _ => exact (ite_self none).symm

/-- The objects say the same under every key, those of a list apart; of equal keys the last counts. -/
def AgreeApart (keys : List String) (as bs : List (String × Json)) : Prop :=
  ∀ key, key ∉ keys → Option.Rel Same (Entries.last? key as) (Entries.last? key bs)

/-- Objects agree on the fields that are left if without the others they are the same. -/
theorem agreeApart_iff :
    AgreeApart keys as bs ↔ Same ((obj as).without keys) ((obj bs).without keys) := by
  constructor
  · intro agree
    refine .obj (fun key => ?_) fun key a b first second => ?_
    · rw [Entries.last?_without, Entries.last?_without]
      split
      · rfl
      · rename_i unlisted
        have same := agree key unlisted
        generalize Entries.last? key as = first at same
        generalize Entries.last? key bs = second at same
        cases same <;> rfl
    · rw [Entries.last?_without] at first second
      split at first
      · cases first
      · rename_i unlisted
        rw [if_neg unlisted] at second
        have same := agree key unlisted
        rw [first, second] at same
        cases same with
        | some same => exact same
  · intro same key unlisted
    cases same with
    | obj present fields =>
      have present := present key
      have fields := fields key
      rw [Entries.last?_without, Entries.last?_without, if_neg unlisted, if_neg unlisted] at present fields
      cases first : Entries.last? key as <;> cases second : Entries.last? key bs <;>
        rw [first, second] at present fields
      · exact .none
      · cases present
      · cases present
      · exact .some (fields _ _ rfl rfl)

theorem areFloatFree_without (keys : List String) (value : Json) (plain : value.isFloatFree = true) :
    (value.without keys).isFloatFree = true := by
  cases value with
  | obj fields =>
    exact areFloatFreeFields_iff.2 fun field member =>
      areFloatFreeFields_iff.1 plain field (List.mem_of_mem_filter member)
  | _ => exact plain

end Json

/-! ## The secrets of a payload -/

namespace Environment

/-- The value names a secret: it is the name, or an object with the name under `name`. The empty text is
no name. -/
inductive Names (secret : String) : Json → Prop where
  | text (nonempty : secret ≠ "") : Names secret (.str secret)
  | object {fields : List (String × Json)} (nonempty : secret ≠ "")
      (named : Entries.get? "name" fields = some (.str secret)) : Names secret (.obj fields)

theorem secretName?_eq_some_iff {value : Json} {secret : String} :
    secretName? value = some secret ↔ Names secret value := by
  constructor
  · intro named
    obtain ⟨named, nonempty⟩ := Option.filter_eq_some_iff.1 named
    have nonempty : secret ≠ "" := of_decide_eq_true nonempty
    cases value with
    | str s =>
      cases named
      exact .text nonempty
    | obj fields =>
      obtain ⟨content, found, text⟩ := Option.bind_eq_some_iff.1 named
      cases content with
      | str s =>
        cases text
        exact .object nonempty found
      | _ => cases text
    | _ => cases named
  · intro names
    cases names with
    | text nonempty =>
      rw [secretName?]
      exact Option.filter_eq_some_iff.2 ⟨rfl, decide_eq_true nonempty⟩
    | object nonempty named =>
      rw [secretName?, named]
      exact Option.filter_eq_some_iff.2 ⟨rfl, decide_eq_true nonempty⟩

/-- The secrets that the fields of a list refer to, in the order in which the fields occur first. -/
def secretsOf (secretFields : List String) (payload : Json) : List String :=
  secretFields.eraseDups.filterMap fun field => (payload.field? field).bind secretName?

/-- A field that has been seen before adds no secret, any other adds the one it refers to. -/
theorem secretsOf_concat (done : List String) (field : String) (payload : Json) :
    secretsOf (done ++ [field]) payload = secretsOf done payload ++
      (if field ∈ done then none else (payload.field? field).bind secretName?).toList := by
  rw [secretsOf, List.eraseDups_append, List.filterMap_append, secretsOf]
  congr 1
  by_cases seen : field ∈ done
  · simp [List.removeAll, seen]
  · have fresh : ([field].removeAll done).eraseDups = [field] := by
      simp [List.removeAll, seen, List.eraseDups_cons]
    rw [fresh, if_neg seen, List.filterMap_cons, List.filterMap_nil]
    cases (payload.field? field).bind secretName? <;> rfl

/-- Taking the secret fields out one after another leaves the fields under other keys and collects the
sources of the secrets. -/
theorem extractSecrets_eq (secretFields : List String) (fields : List (String × Json)) :
    extractSecrets secretFields fields = (Entries.without secretFields fields,
      (secretsOf secretFields (.obj fields)).map secretSource) := by
  -- the fields of the list that were dealt with so far are the invariant's only parameter
  induction secretFields using List.reverseRecOn with
  | nil => exact congrArg (·, []) (List.filter_eq_self.2 fun _ _ => by simp).symm
  | append_singleton done field ih =>
    have found := Entries.get?_without done field fields
    unfold extractSecrets at ih ⊢
    rw [List.foldl_append, ih, List.foldl_cons, List.foldl_nil, secretsOf_concat, List.map_append,
      ← Entries.erase_without]
    simp only [Json.field?]
    cases value : Entries.get? field (Entries.without done fields) with
    | none =>
      have unnamed : (if field ∈ done then none
          else (Entries.get? field fields).bind secretName?) = none := by
        split
        · rfl
        · rename_i unseen
          rw [value, if_neg unseen] at found
          rw [← found, Option.bind_none]
      rw [Entries.erase_of_absent value, unnamed, Option.toList_none, List.map_nil, List.append_nil]
    | some v =>
      have unseen : field ∉ done := by
        intro seen
        rw [value, if_pos seen] at found
        cases found
      rw [value, if_neg unseen] at found
      rw [if_neg unseen, ← found, Option.bind_some]

theorem splitSecrets_eq (secretFields : List String) (payload : Json) :
    splitSecrets secretFields payload
      = (payload.without secretFields, (secretsOf secretFields payload).map secretSource) := by
  cases payload with
  | obj fields => rw [splitSecrets, extractSecrets_eq]; rfl
  | _ =>
    have nothing : ∀ payload : Json, (∀ key, payload.field? key = none) →
        secretsOf secretFields payload = [] := fun payload bare =>
      List.filterMap_eq_nil_iff.2 fun field _ => by rw [bare, Option.bind_none]
    rw [splitSecrets, nothing _ fun _ => rfl]
    · rfl
    · rintro fields ⟨⟩

end Environment

/-! ## The environment -/

/-- The variables tell a stream by its name and kind, and its payload without the secret fields. -/
theorem StreamView.environment_eq (v : StreamView) (backfilling : Bool) (secretFields : List String) :
    v.environment backfilling secretFields = {
      vars := [
        Environment.streamVar "STREAM_ID" v.id,
        Environment.streamVar "STREAM_KIND" v.kind,
        Environment.streamVar "BACKFILL" (Environment.flag backfilling),
        Environment.streamVar "SPEC" (v.payload.without secretFields).canonical.render]
      sources := (Environment.secretsOf secretFields v.payload).map Environment.secretSource } := by
  rw [environment, Environment.splitSecrets_eq]

/-- Streams of one name and kind have the same variables if their payloads print the same text once the
secret fields are gone. -/
theorem StreamView.vars_eq_iff {v w : StreamView} (id : w.id = v.id) (kind : w.kind = v.kind)
    (backfilling : Bool) (secretFields : List String) :
    (w.environment backfilling secretFields).vars = (v.environment backfilling secretFields).vars ↔
      (w.payload.without secretFields).canonical.render
        = (v.payload.without secretFields).canonical.render := by
  simp only [environment_eq, id, kind, Environment.streamVar, List.cons.injEq, EnvVar.mk.injEq,
    Option.some.injEq, true_and, and_true]

/-- What secret fields hold stays out of the variables of a job, and all else reaches them: streams of one
name and kind with payloads that agree on the other fields have the same variables, and if there are no
floating-point numbers only such streams have. The payload is passed on without the listed fields, and every
secret that a listed field names becomes one source, in the order in which the fields occur first. -/
theorem secrets_stay_out (backfilling : Bool) (secretFields : List String) :
    (∀ (v w : StreamView) (as bs : List (String × Json)), v.payload = .obj as → w.payload = .obj bs →
      w.id = v.id → w.kind = v.kind →
      (Json.AgreeApart secretFields as bs →
        (w.environment backfilling secretFields).vars = (v.environment backfilling secretFields).vars) ∧
      (v.payload.isFloatFree = true → w.payload.isFloatFree = true →
        (w.environment backfilling secretFields).vars = (v.environment backfilling secretFields).vars →
        Json.AgreeApart secretFields as bs)) ∧
    (∀ v : StreamView, v.environment backfilling secretFields = {
      vars := [
        Environment.streamVar "STREAM_ID" v.id,
        Environment.streamVar "STREAM_KIND" v.kind,
        Environment.streamVar "BACKFILL" (Environment.flag backfilling),
        Environment.streamVar "SPEC" (v.payload.without secretFields).canonical.render]
      sources := (secretFields.eraseDups.filterMap fun field =>
        (v.payload.field? field).bind Environment.secretName?).map Environment.secretSource }) ∧
    (∀ (payload : Json) (key : String), (payload.without secretFields).field? key
      = if key ∈ secretFields then none else payload.field? key) ∧
    ∀ (value : Json) (secret : String),
      Environment.secretName? value = some secret ↔ Environment.Names secret value := by
  refine ⟨?_, fun v => v.environment_eq backfilling secretFields,
    fun payload key => payload.field?_without secretFields key,
    fun _ _ => Environment.secretName?_eq_some_iff⟩
  intro v w as bs payload payload' id kind
  refine ⟨fun agree => ?_, fun plain plain' same => ?_⟩
  · have same : Json.Same (v.payload.without secretFields) (w.payload.without secretFields) := by
      rw [payload, payload']
      exact Json.agreeApart_iff.1 agree
    exact (StreamView.vars_eq_iff id kind backfilling secretFields).2 (by rw [same.canonical_eq])
  · have text := (StreamView.vars_eq_iff id kind backfilling secretFields).1 same
    have same := (Json.canonicalText_inj (Json.areFloatFree_without secretFields _ plain)
      (Json.areFloatFree_without secretFields _ plain')).1 text.symm
    rw [payload, payload'] at same
    exact Json.agreeApart_iff.2 same

section Orders

/-- The orders with a secret that one field refers to, a field of the same name further down and a field
that refers to no secret. -/
def guardedFields (secret : String) : List (String × Json) :=
  [("connection", .obj [("name", .str secret)]), ("sink", .obj [("connection", .str "kept")]),
    ("table", .str "orders"), ("token", .obj [("name", .str "")]), ("user", .str "reader")]

/-- The orders as they are seen, with that payload. -/
def guardedView (secret : String) : StreamView :=
  { (Orders.definition "1" none).view with payload := .obj (guardedFields secret) }

/-- Which secret the orders use cannot be told from the variables, and each secret is a source once. -/
theorem secret_of_orders_stays_out :
    let secretFields := ["user", "token", "connection", "absent", "user"]
    ((guardedView "swordfish").environment false secretFields).vars
        = ((guardedView "sesame").environment false secretFields).vars ∧
      ((guardedView "sesame").environment false secretFields).sources
        = ["reader", "sesame"].map Environment.secretSource := by
  intro secretFields
  have agree : Json.AgreeApart secretFields (guardedFields "sesame") (guardedFields "swordfish") :=
    Json.agreeApart_iff.2 (Json.canonical_eq_iff.1 (by decide +kernel))
  obtain ⟨hidden, exact, -, -⟩ := secrets_stay_out false secretFields
  refine ⟨(hidden (guardedView "sesame") (guardedView "swordfish") _ _ rfl rfl rfl rfl).1 agree, ?_⟩
  rw [exact]
  decide +kernel

end Orders

end StreamOperator
