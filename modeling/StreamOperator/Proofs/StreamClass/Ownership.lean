import StreamOperator.Proofs.StreamClass.Registry

/-!
# Who serves a kind

Runs of registrations and removals. What stands under a kind is told by the operations that the registry
granted: it is the class of the last of them on the kind, unless that one is a removal
(`get?_run_empty_iff`). The id under which a kind is served stays until a class with this id gives the kind
up (`IsServed.run`).
-/

set_option autoImplicit false

namespace StreamOperator.ClassRegistry

/-- What is asked of a registry. -/
inductive Operation where
  | insert (c : StreamClass)
  | remove (c : StreamClass)

namespace Operation

/-- The kind that the operation is about. -/
def kind : Operation → String
  | insert c | remove c => c.spec.kindRef

/-- What stands under the kind after the operation, once it is granted. -/
def leaves : Operation → Option StreamClass
  | insert c => some c
  | remove _ => none

/-- The last operation on a kind. -/
def lastOn (kind : String) (ops : List Operation) : Option Operation :=
  (ops.filter fun op => op.kind = kind).getLast?

theorem kind_of_lastOn {kind : String} {ops : List Operation} {op : Operation}
    (last : lastOn kind ops = some op) : op.kind = kind := by
  have member := List.mem_of_getLast? last
  simpa using (List.mem_filter.1 member).2

theorem lastOn_cons (kind : String) (op : Operation) (ops : List Operation) :
    lastOn kind (op :: ops) = (lastOn kind ops).or (if op.kind = kind then some op else none) := by
  by_cases own : op.kind = kind
  · rw [lastOn, List.filter_cons_of_pos (by simpa using own), List.getLast?_cons, if_pos own, ← lastOn]
    cases lastOn kind ops <;> rfl
  · rw [lastOn, List.filter_cons_of_neg (by simpa using own), if_neg own, Option.or_none, lastOn]

end Operation

open Operation (lastOn)

variable {r r' : ClassRegistry} {c d : StreamClass} {kind : String} {op : Operation}
  {ops : List Operation}

/-! ## One operation -/

/-- An insertion takes effect if it is accepted, a removal if it is by the class that serves the kind. -/
def grants (r : ClassRegistry) : Operation → Bool
  | .insert c => (r.insert c).isOk
  | .remove c => r.serves c

/-- The registry after an operation. An insertion that is refused leaves it as it is. -/
def after (r : ClassRegistry) : Operation → ClassRegistry
  | .insert c => (r.insert c).toOption.getD r
  | .remove c => r.remove c

theorem grants_insert_iff : r.grants (.insert c) = true ↔ ∃ r', r.insert c = .ok r' := by
  rw [grants]
  cases r.insert c with
  | error e => simp [Except.isOk, Except.toBool]
  | ok r' => simp [Except.isOk, Except.toBool]

theorem after_of_inserted (inserted : r.insert c = .ok r') : r.after (.insert c) = r' := by
  rw [after, inserted]
  rfl

/-- What is not granted changes nothing. -/
theorem after_of_not_grants (refused : r.grants op = false) : r.after op = r := by
  cases op with
  | insert c =>
    cases inserted : r.insert c with
    | error e => rw [after, inserted]; rfl
    | ok r' => rw [grants, inserted] at refused; cases refused
  | remove c =>
    rw [grants] at refused
    simp [after, remove, refused]

/-- An operation that is granted decides what stands under its kind; everything else stays. -/
theorem get?_after : (r.after op).get? kind =
    if r.grants op = true ∧ op.kind = kind then op.leaves else r.get? kind := by
  by_cases granted : r.grants op = true
  · cases op with
    | insert c =>
      obtain ⟨r', inserted⟩ := grants_insert_iff.1 granted
      rw [after_of_inserted inserted, get?_of_insert inserted]
      simp [granted, Operation.kind, Operation.leaves, eq_comm]
    | remove c =>
      have serves : r.serves c = true := granted
      rw [after, get?_remove]
      simp [granted, serves, Operation.kind, Operation.leaves, eq_comm]
  · rw [if_neg fun h => granted h.1, after_of_not_grants (by simpa using granted)]

theorem capacity_after : (r.after op).capacity = r.capacity := by
  cases op with
  | insert c =>
    cases inserted : r.insert c with
    | error e => rw [after, inserted]; rfl
    | ok r' => rw [after_of_inserted inserted, capacity_of_insert inserted]
  | remove c => exact capacity_remove

theorem Fits.after (fits : r.Fits) : (r.after op).Fits := by
  cases op with
  | insert c =>
    cases inserted : r.insert c with
    | error e => rw [ClassRegistry.after, inserted]; exact fits
    | ok r' => rw [after_of_inserted inserted]; exact fits.insert inserted
  | remove c => exact fits.remove

/-! ## Who is granted what -/

/-- The kind is served by a class with an id. -/
def IsServed (r : ClassRegistry) (kind id : String) : Prop := ∃ c, r.get? kind = some c ∧ c.id = id

/-- A class may be inserted if its kind is served by its own id, or is free and there is room. -/
theorem grants_insert_iff_isServed : r.grants (.insert c) = true ↔
    r.IsServed c.spec.kindRef c.id ∨ r.get? c.spec.kindRef = none ∧ r.size < r.capacity := by
  rw [grants_insert_iff]
  constructor
  · rintro ⟨r', inserted⟩
    rcases (insert_ok inserted).2 with free | served
    · exact .inr free
    · exact .inl served
  · rintro (⟨d, found, own⟩ | ⟨free, room⟩)
    · exact ⟨_, insert_of_serving found own⟩
    · exact ⟨_, insert_of_room free room⟩

/-- A class may be removed if its kind is served by its own id. -/
theorem grants_remove_iff_isServed :
    r.grants (.remove c) = true ↔ r.IsServed c.spec.kindRef c.id := by
  rw [grants, serves, IsServed, Option.any_eq_true]
  simp

/-- An insertion that is not granted is a fault of the configuration. -/
theorem exists_error_of_not_grants (refused : r.grants (.insert c) = false) :
    ∃ reason, r.insert c = .error (.configuration reason) := by
  cases inserted : r.insert c with
  | ok r' => rw [grants, inserted] at refused; cases refused
  | error e =>
    unfold insert at inserted
    split at inserted
    · split at inserted
      · exact ⟨_, by rw [Except.error.inj inserted]⟩
      · cases inserted
    · split at inserted
      · exact ⟨_, by rw [Except.error.inj inserted]⟩
      · cases inserted

/-- A kind is served by its id as long as no class with this id gives it up. -/
theorem IsServed.after {id : String} (served : r.IsServed kind id)
    (kept : ∀ d, op = .remove d → d.spec.kindRef = kind → d.id ≠ id) : (r.after op).IsServed kind id := by
  obtain ⟨c, found, rfl⟩ := served
  by_cases touched : r.grants op = true ∧ op.kind = kind
  · obtain ⟨granted, rfl⟩ := touched
    cases op with
    | insert d =>
      refine ⟨d, by rw [get?_after, if_pos ⟨granted, rfl⟩]; rfl, ?_⟩
      rcases grants_insert_iff_isServed.1 granted with ⟨own, found', same⟩ | ⟨free, -⟩
      · obtain rfl : c = own := Option.some.inj (found.symm.trans found')
        exact same.symm
      · cases found.symm.trans free
    | remove d =>
      obtain ⟨own, found', same⟩ := grants_remove_iff_isServed.1 granted
      obtain rfl : c = own := Option.some.inj (found.symm.trans found')
      exact absurd same.symm (kept d rfl rfl)
  · exact ⟨c, by rw [get?_after, if_neg touched, found], rfl⟩

/-! ## Runs -/

/-- The registry after operations, one after another. -/
def run (r : ClassRegistry) (ops : List Operation) : ClassRegistry := ops.foldl after r

/-- Those of the operations that were granted. -/
def granted (r : ClassRegistry) : List Operation → List Operation
  | [] => []
  | op :: rest => if r.grants op then op :: (r.after op).granted rest else (r.after op).granted rest

theorem run_cons : r.run (op :: ops) = (r.after op).run ops := rfl

theorem run_append (more : List Operation) : r.run (ops ++ more) = (r.run ops).run more :=
  List.foldl_append

theorem capacity_run : (r.run ops).capacity = r.capacity := by
  induction ops generalizing r with
  | nil => rfl
  | cons op rest ih => rw [run_cons, ih, capacity_after]

theorem Fits.run (fits : r.Fits) : (r.run ops).Fits := by
  induction ops generalizing r with
  | nil => exact fits
  | cons op rest ih => exact ih fits.after

theorem IsServed.run {id : String} (served : r.IsServed kind id)
    (kept : ∀ d, .remove d ∈ ops → d.spec.kindRef = kind → d.id ≠ id) :
    (r.run ops).IsServed kind id := by
  induction ops generalizing r with
  | nil => exact served
  | cons op rest ih =>
    have next : (r.after op).IsServed kind id :=
      served.after fun d same => kept d (same ▸ List.mem_cons_self)
    exact ih next fun d member => kept d (List.mem_cons_of_mem _ member)

/-- The last operation on a kind that was granted decides what stands under it. -/
theorem get?_run : (r.run ops).get? kind =
    ((lastOn kind (r.granted ops)).map Operation.leaves).getD (r.get? kind) := by
  induction ops generalizing r with
  | nil => rfl
  | cons op rest ih =>
    rw [run_cons, ih, get?_after, granted]
    by_cases accepted : r.grants op = true
    · rw [if_pos accepted, Operation.lastOn_cons]
      cases lastOn kind ((r.after op).granted rest) with
      | some later => rfl
      | none => by_cases own : op.kind = kind <;> simp [accepted, own]
    · rw [if_neg accepted, if_neg fun touched => accepted touched.1]

/-- A class stands under a kind exactly if its insertion is what was granted last on the kind. -/
theorem get?_run_empty_iff {capacity : Nat} : ((empty capacity).run ops).get? kind = some c ↔
    lastOn kind ((empty capacity).granted ops) = some (.insert c) := by
  have vacant : (empty capacity).get? kind = none := rfl
  rw [get?_run, vacant]
  cases lastOn kind ((empty capacity).granted ops) with
  | none => simp
  | some op => cases op <;> simp [Operation.leaves]

/-- Every class stands under its own kind. -/
theorem kindRef_of_get?_run {capacity : Nat}
    (found : ((empty capacity).run ops).get? kind = some c) : c.spec.kindRef = kind :=
  Operation.kind_of_lastOn (get?_run_empty_iff.1 found)

/-! ## The registry over any history -/

/-- Whatever was asked of a registry, there are no more kinds than it has room for, each stands for a class
of its own, and the id that serves a kind serves it until a class with this id gives it up; of the classes
with the id it is the one that was inserted last. The id that serves a kind may always insert a class for
it. Other ids, and new kinds when there is no room, are refused, and nobody else can give the kind up. -/
theorem kind_keeps_its_class (capacity : Nat) (ops : List Operation) :
    let r := (empty capacity).run ops
    (∀ kinds : List String, kinds.Nodup → (∀ kind ∈ kinds, (r.get? kind).isSome = true) →
      kinds.length ≤ max capacity 1) ∧
    (∀ kind c, r.get? kind = some c → c.spec.kindRef = kind) ∧
    (∀ kind c more, r.get? kind = some c →
      (∀ d, .remove d ∈ more → d.spec.kindRef = kind → d.id ≠ c.id) →
      ∃ d, ((empty capacity).run (ops ++ more)).get? kind = some d ∧ d.id = c.id ∧
        lastOn kind ((empty capacity).granted (ops ++ more)) = some (.insert d)) ∧
    (∀ c, r.IsServed c.spec.kindRef c.id →
      (∃ r', r.insert c = .ok r' ∧ r'.get? c.spec.kindRef = some c) ∧
      r.serves c = true ∧ (r.remove c).get? c.spec.kindRef = none) ∧
    (∀ c, (∃ d, r.get? c.spec.kindRef = some d ∧ d.id ≠ c.id) ∨
        r.get? c.spec.kindRef = none ∧ r.size = max capacity 1 →
      (∃ reason, r.insert c = .error (.configuration reason)) ∧ r.after (.insert c) = r) ∧
    (∀ c, ¬r.IsServed c.spec.kindRef c.id → r.serves c = false ∧ r.remove c = r) := by
  intro r
  have room : r.capacity = max capacity 1 := capacity_run
  have fits : r.Fits := (fits_empty capacity).run
  refine ⟨?_, ?_, ?_, ?_, ?_, ?_⟩
  · intro kinds distinct served
    calc kinds.length ≤ r.size := length_le_size distinct served
      _ ≤ r.capacity := fits
      _ = max capacity 1 := room
  · exact fun kind c found => kindRef_of_get?_run found
  · intro kind c more found kept
    obtain ⟨d, standing, same⟩ := IsServed.run ⟨c, found, rfl⟩ kept
    rw [← run_append] at standing
    exact ⟨d, standing, same, get?_run_empty_iff.1 standing⟩
  · intro c served
    obtain ⟨r', inserted⟩ := grants_insert_iff.1 (grants_insert_iff_isServed.2 (.inl served))
    have serves : r.serves c = true := grants_remove_iff_isServed.2 served
    refine ⟨⟨r', inserted, holds_of_insert inserted⟩, serves, ?_⟩
    rw [get?_remove, if_pos ⟨rfl, serves⟩]
  · intro c unwelcome
    have refused : r.grants (.insert c) = false := by
      rw [← Bool.not_eq_true, grants_insert_iff_isServed]
      rintro (⟨own, found, same⟩ | ⟨free, space⟩)
      · rcases unwelcome with ⟨d, found', other⟩ | ⟨free, -⟩
        · exact other (Option.some.inj (found'.symm.trans found) ▸ same)
        · cases free.symm.trans found
      · rcases unwelcome with ⟨d, found', -⟩ | ⟨-, full⟩
        · cases free.symm.trans found'
        · omega
    exact ⟨exists_error_of_not_grants refused, after_of_not_grants refused⟩
  · intro c unserved
    have refused : r.grants (.remove c) = false := by
      rw [← Bool.not_eq_true, grants_remove_iff_isServed]
      exact unserved
    exact ⟨refused, after_of_not_grants refused⟩

section Tables

/-- A class of streams from tables. -/
def tableClass (space name : String) : StreamClass where
  metadata := { name := some name, space := some space }
  spec := {
    apiGroupRef := "streaming.example.org"
    pluralName := "table-streams"
    kindRef := "TableStream" }
  status := none

/-- A class of another kind. -/
def queueClass : StreamClass :=
  { tableClass "streams" "queues" with spec.pluralName := "queue-streams", spec.kindRef := "QueueStream" }

/-- The class of tables is replaced by its successor while others ask for its kind, and for its room. -/
def contendedOps : List Operation :=
  [.insert (tableClass "streams" "tables"), .insert (tableClass "other" "rival"), .insert queueClass,
    .insert (tableClass "streams" "successor"), .remove (tableClass "other" "rival"), .remove queueClass]

/-- The successor serves the kind, and the first class may take it back; after that it is given up. -/
theorem successor_serves_tables :
    let r := (empty 0).run contendedOps
    let returns : List Operation := [.insert queueClass, .insert (tableClass "streams" "tables")]
    r.get? "TableStream" = some (tableClass "streams" "successor") ∧
    (∃ d, ((empty 0).run (contendedOps ++ returns)).get? "TableStream" = some d ∧
      d.id = "streams-tablestream") ∧
    (∃ r', r.insert (tableClass "streams" "tables") = .ok r') ∧
    (r.remove (tableClass "streams" "tables")).get? "TableStream" = none ∧
    (∃ reason, r.insert queueClass = .error (.configuration reason)) ∧
    (∃ reason, r.insert (tableClass "other" "rival") = .error (.configuration reason)) ∧
    r.remove (tableClass "other" "rival") = r := by
  intro r returns
  have standing : r.get? "TableStream" = some (tableClass "streams" "successor") := by decide +kernel
  have id : (tableClass "streams" "successor").id = "streams-tablestream" := by decide +kernel
  have own : (tableClass "streams" "successor").id = (tableClass "streams" "tables").id := by
    decide +kernel
  have other : (tableClass "streams" "successor").id ≠ (tableClass "other" "rival").id := by
    decide +kernel
  have free : r.get? "QueueStream" = none := by decide +kernel
  have full : r.size = max 0 1 := by decide +kernel
  obtain ⟨-, -, keeps, serves, refuses, spares⟩ := kind_keeps_its_class 0 contendedOps
  obtain ⟨d, found, same, -⟩ := keeps "TableStream" _ returns standing (by simp [returns])
  obtain ⟨⟨r', inserted, -⟩, -, removed⟩ := serves (tableClass "streams" "tables") ⟨_, standing, own⟩
  refine ⟨standing, ⟨d, found, same.trans id⟩, ⟨r', inserted⟩, removed, ?_, ?_, ?_⟩
  · exact (refuses queueClass (.inr ⟨free, full⟩)).1
  · exact (refuses (tableClass "other" "rival") (.inl ⟨_, standing, other⟩)).1
  · refine (spares (tableClass "other" "rival") ?_).2
    rintro ⟨c, found, same⟩
    obtain rfl : _ = c := Option.some.inj (standing.symm.trans found)
    exact other same

end Tables

end StreamOperator.ClassRegistry
