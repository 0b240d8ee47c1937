import Mathlib.Logic.Function.Basic
import StreamOperator.Proofs.StreamClass.Registry
import StreamOperator.Supervisor.Call

/-!
# What attaching and detaching come to

Of a supervisor, the attaching or detaching of a class (an `Errand`) reads and changes two things: the
classes that have handles, by their ids, and the registry. They are the `Roster`. What an errand comes
to is a function of it (`Errand.prospect`), which touches the id of its class and the kinds that the
class involves: its own, and the one of the class that has the handle. Two errands that touch different
ids and different kinds can be exchanged, if the registry has room for both (`Errand.exchange`).
-/

set_option autoImplicit false

namespace StreamOperator

/-- The classes that have handles, and the registry. -/
@[ext] structure Roster where
  classes : String → Option StreamClass
  registry : ClassRegistry

/-- What a call comes to. -/
structure Prospect where
  result : Except Failure Unit
  roster : Roster
  /-- The report that is still to be written, and where the writing stands. -/
  due : Option (ClassReport × StatusWrite) := none

namespace Roster

/-- Puts a class, or none, under an id. -/
def assign (r : Roster) (id : String) (c : Option StreamClass) : Roster :=
  { r with classes := Function.update r.classes id c }

/-- The class is attached already, for the same generation. -/
def IsCurrent (r : Roster) (c : StreamClass) : Prop :=
  (r.classes c.id).map (fun d => d.metadata.generation) = some c.metadata.generation

instance (r : Roster) (c : StreamClass) : Decidable (r.IsCurrent c) :=
  inferInstanceAs (Decidable (_ = _))

/-- Registers a class and gives it a handle, or refuses it. -/
def register (r : Roster) (c : StreamClass) : Prospect :=
  match r.registry.insert c with
  | .ok registry =>
    ⟨.ok (), { r with registry := registry }.assign c.id (some c), some (.attached, .reading)⟩
  | .error e => ⟨.error e, r, some (.failed e, .reading)⟩

def attach (r : Roster) (c : StreamClass) : Prospect :=
  if r.IsCurrent c then ⟨.ok (), r, none⟩ else (r.assign c.id none).register c

/-- The class that has the handle gives its kind up. -/
def detach (r : Roster) (c : StreamClass) : Prospect :=
  match r.classes c.id with
  | none => ⟨.ok (), r, none⟩
  | some d => ⟨.ok (), { r with registry := r.registry.remove d }.assign c.id none, none⟩

/-- The kind is the one of a class, or of the class that has the handle under its id. -/
def Involves (r : Roster) (c : StreamClass) (kind : String) : Prop :=
  c.spec.kindRef = kind ∨ ∃ d, r.classes c.id = some d ∧ d.spec.kindRef = kind

/-- Two rosters are the same for an id and certain kinds. -/
structure Agrees (id : String) (kinds : String → Prop) (r r' : Roster) : Prop where
  class_eq : r'.classes id = r.classes id
  entry_eq : ∀ {kind}, kinds kind → r'.registry.get? kind = r.registry.get? kind

variable {r r' : Roster} {c d : StreamClass} {id kind : String}

@[simp] theorem registry_assign (c : Option StreamClass) : (r.assign id c).registry = r.registry := rfl

@[simp] theorem classes_assign (c : Option StreamClass) (other : String) :
    (r.assign id c).classes other = if other = id then c else r.classes other := by
  simp [assign, Function.update_apply]

theorem attach_of_free (free : r.classes c.id = none) : r.attach c = r.register c := by
  have outdated : ¬ r.IsCurrent c := by simp [IsCurrent, free]
  have same : r.assign c.id none = r := by simp [assign, ← free]
  rw [attach, if_neg outdated, same]

theorem Agrees.assign {kinds : String → Prop} (agrees : r.Agrees id kinds r')
    (c : Option StreamClass) : (r.assign id c).Agrees id kinds (r'.assign id c) :=
  ⟨by simp, agrees.entry_eq⟩

end Roster

/-- What is asked of a supervisor for a class. -/
inductive Errand where
  | attach (c : StreamClass)
  | detach (c : StreamClass)

namespace Errand

/-- The class it is about. -/
def subject : Errand → StreamClass
  | attach c | detach c => c

def call : Errand → Call
  | attach c => .ofAttach c
  | detach c => .ofDetach c

/-- What it comes to. -/
def prospect (stopped : Bool) (r : Roster) : Errand → Prospect
  | attach c => if stopped then ⟨.error Supervisor.stoppedFailure, r, none⟩ else r.attach c
  | detach c => r.detach c

/-- The room that it takes in the registry. -/
def demand (registry : ClassRegistry) : Errand → Nat
  | attach c => registry.demand c
  | detach _ => 0

/-- The registry has the room that the errand takes. -/
def Fits (e : Errand) (registry : ClassRegistry) : Prop :=
  registry.size + e.demand registry ≤ registry.capacity

variable {e : Errand} {stopped : Bool} {r r' : Roster} {c d : StreamClass} {id kind : String}

/-! ## What an errand leaves alone -/

/-- The roster after an errand: as it was, or with one change of the registry and one of the classes. -/
inductive Leaves (e : Errand) (r : Roster) : Roster → Prop where
  | kept : Leaves e r r
  | refused : Leaves e r (r.assign e.subject.id none)
  | registered {registry : ClassRegistry} (inserted : r.registry.insert e.subject = .ok registry)
      (demanding : e.demand r.registry = r.registry.demand e.subject) :
      Leaves e r ({ r with registry := registry }.assign e.subject.id (some e.subject))
  | released {d : StreamClass} (found : r.classes e.subject.id = some d) :
      Leaves e r ({ r with registry := r.registry.remove d }.assign e.subject.id none)

theorem leaves_prospect (e : Errand) (stopped : Bool) (r : Roster) :
    e.Leaves r (e.prospect stopped r).roster := by
  cases e with
  | attach c =>
    simp only [prospect]
    split
    · exact .kept
    unfold Roster.attach
    split
    · exact .kept
    unfold Roster.register
    split
    · rename_i inserted
      have doubled : ∀ registry, Roster.assign { r.assign c.id none with registry := registry } c.id
          (some c) = Roster.assign { r with registry := registry } c.id (some c) := by
        simp [Roster.assign]
      rw [doubled]
      exact .registered inserted rfl
    · exact .refused
  | detach c =>
    simp only [prospect, Roster.detach]
    split
    · exact .kept
    · rename_i found
      exact .released found

theorem Leaves.classes_eq (leaves : e.Leaves r r') (other : id ≠ e.subject.id) :
    r'.classes id = r.classes id := by
  cases leaves with
  | kept => rfl
  | refused | registered | released => rw [Roster.classes_assign, if_neg other]

theorem Leaves.get?_eq (leaves : e.Leaves r r') (outside : ¬ r.Involves e.subject kind) :
    r'.registry.get? kind = r.registry.get? kind := by
  cases leaves with
  | kept | refused => rfl
  | registered inserted =>
    have other : kind ≠ e.subject.spec.kindRef := fun own => outside (.inl own.symm)
    rw [Roster.registry_assign, ClassRegistry.get?_of_insert inserted, if_neg other]
  | released found =>
    have other : ∀ serves : Prop, ¬ (kind = _ ∧ serves) :=
      fun _ own => outside (.inr ⟨_, found, own.1.symm⟩)
    rw [Roster.registry_assign, ClassRegistry.get?_remove, if_neg (other _)]

/-- The class is for the same kind afterwards, or it has the handle. -/
theorem Leaves.involves (leaves : e.Leaves r r') (involved : r'.Involves e.subject kind) :
    r.Involves e.subject kind := by
  rcases involved with own | ⟨d, found, own⟩
  · exact .inl own
  · cases leaves with
    | kept => exact .inr ⟨d, found, own⟩
    | refused | released => simp at found
    | registered =>
      obtain rfl : e.subject = d := by simpa using found
      exact .inl own

theorem Leaves.capacity_eq (leaves : e.Leaves r r') : r'.registry.capacity = r.registry.capacity := by
  cases leaves with
  | kept | refused => rfl
  | registered inserted => exact ClassRegistry.capacity_of_insert inserted
  | released => exact ClassRegistry.capacity_remove

theorem Leaves.size_le (leaves : e.Leaves r r') :
    r'.registry.size ≤ r.registry.size + e.demand r.registry := by
  cases leaves with
  | kept | refused => exact Nat.le_add_right _ _
  | registered inserted demanding => exact demanding ▸ ClassRegistry.size_of_insert inserted
  | released => exact Nat.le_trans ClassRegistry.size_remove_le (Nat.le_add_right _ _)

/-! ## What an errand goes by -/

/-- What an errand goes by is the class under its id and the entries for the kinds that are involved; in
two rosters with the same ones it has the same result and report, and leaves the same ones behind. -/
structure SameOutcome (c : StreamClass) (kinds : String → Prop) (p q : Prospect) : Prop where
  result : q.result = p.result
  due : q.due = p.due
  agrees : p.roster.Agrees c.id kinds q.roster

theorem register_congr {kinds : String → Prop} (agrees : r.Agrees c.id kinds r')
    (own : kinds c.spec.kindRef) (room : (attach c).Fits r.registry)
    (room' : (attach c).Fits r'.registry) : SameOutcome c kinds (r.register c) (r'.register c) := by
  unfold Roster.register
  rcases ClassRegistry.insert_congr (agrees.entry_eq own) room room' with
    ⟨next, next', taken, taken'⟩ | ⟨e, refused, refused'⟩
  · rw [taken, taken']
    refine ⟨rfl, rfl, by simp, fun involved => ?_⟩
    rw [Roster.registry_assign, Roster.registry_assign, ClassRegistry.get?_of_insert taken,
      ClassRegistry.get?_of_insert taken', agrees.entry_eq involved]
  · rw [refused, refused']
    exact ⟨rfl, rfl, agrees⟩

theorem attach_congr {kinds : String → Prop} (agrees : r.Agrees c.id kinds r')
    (own : kinds c.spec.kindRef) (room : (attach c).Fits r.registry)
    (room' : (attach c).Fits r'.registry) : SameOutcome c kinds (r.attach c) (r'.attach c) := by
  have same : r'.IsCurrent c ↔ r.IsCurrent c := by rw [Roster.IsCurrent, agrees.class_eq]; rfl
  unfold Roster.attach
  by_cases current : r.IsCurrent c
  · rw [if_pos current, if_pos (same.2 current)]
    exact ⟨rfl, rfl, agrees⟩
  · rw [if_neg current, if_neg (mt same.1 current)]
    exact register_congr (agrees.assign none) own room room'

theorem detach_congr {kinds : String → Prop} (agrees : r.Agrees c.id kinds r')
    (involved : ∀ {d}, r.classes c.id = some d → kinds d.spec.kindRef) :
    SameOutcome c kinds (r.detach c) (r'.detach c) := by
  unfold Roster.detach
  rw [agrees.class_eq]
  cases found : r.classes c.id with
  | none => exact ⟨rfl, rfl, agrees⟩
  | some d =>
    refine ⟨rfl, rfl, by simp, fun inside => ?_⟩
    have serves : r'.registry.serves d = r.registry.serves d := by
      rw [ClassRegistry.serves, agrees.entry_eq (involved found)]
      rfl
    simp only [Roster.registry_assign, ClassRegistry.get?_remove, serves, agrees.entry_eq inside]

theorem prospect_congr (agrees : r.Agrees e.subject.id (r.Involves e.subject) r')
    (room : e.Fits r.registry) (room' : e.Fits r'.registry) :
    SameOutcome e.subject (r.Involves e.subject) (e.prospect stopped r) (e.prospect stopped r') := by
  cases e with
  | attach c =>
    simp only [prospect]
    split
    · exact ⟨rfl, rfl, agrees⟩
    · exact attach_congr agrees (.inl rfl) room room'
  | detach c => exact detach_congr agrees fun found => .inr ⟨_, found, rfl⟩

end Errand

/-! ## Two errands -/

/-- Two classes have different ids, and no kind is involved in both: each class is for another kind than
the other one and the class that has the handle under the id of the other one. -/
structure Roster.Apart (r : Roster) (c d : StreamClass) : Prop where
  ids : c.id ≠ d.id
  kinds : ∀ kind, r.Involves c kind → ¬ r.Involves d kind

/-- The classes of two errands are apart, and the registry has room for both. -/
structure Roster.Separates (r : Roster) (a b : Errand) : Prop
    extends r.Apart a.subject b.subject where
  room : r.registry.size + a.demand r.registry + b.demand r.registry ≤ r.registry.capacity

theorem Roster.Apart.symm {r : Roster} {c d : StreamClass} (apart : r.Apart c d) : r.Apart d c where
  ids := apart.ids.symm
  kinds kind involved involved' := apart.kinds kind involved' involved

/-- An errand for one of the classes keeps them apart. -/
theorem Roster.Apart.after {r r' : Roster} {e : Errand} {c : StreamClass}
    (apart : r.Apart e.subject c) (leaves : e.Leaves r r') : r'.Apart e.subject c where
  ids := apart.ids
  kinds kind involved other := by
    have class_eq := leaves.classes_eq apart.ids.symm
    rw [Roster.Involves, class_eq] at other
    exact apart.kinds kind (leaves.involves involved) other

namespace Roster.Separates

variable {a b : Errand} {stopped : Bool} {r : Roster} {id kind : String}

theorem symm (separates : r.Separates a b) : r.Separates b a where
  toApart := separates.toApart.symm
  room := by
    have room := separates.room
    omega

/-- What the first errand leaves is the same for the second one. -/
theorem agrees (separates : r.Separates a b) (stopped : Bool) :
    r.Agrees b.subject.id (r.Involves b.subject) (a.prospect stopped r).roster where
  class_eq := (a.leaves_prospect stopped r).classes_eq separates.ids.symm
  entry_eq involved := (a.leaves_prospect stopped r).get?_eq fun other =>
    separates.kinds _ other involved

theorem demand_eq (separates : r.Separates a b) (stopped : Bool) :
    b.demand (a.prospect stopped r).roster.registry = b.demand r.registry := by
  cases b with
  | attach c =>
    have same : (a.prospect stopped r).roster.registry.get? c.spec.kindRef = _ :=
      (separates.agrees stopped).entry_eq (.inl rfl)
    simp only [Errand.demand, ClassRegistry.demand, same]
  | detach c => rfl

/-- After the first errand there is room for the second one. -/
theorem fits (separates : r.Separates a b) (stopped : Bool) :
    b.Fits (a.prospect stopped r).roster.registry := by
  have leaves := a.leaves_prospect stopped r
  unfold Errand.Fits
  rw [separates.demand_eq, leaves.capacity_eq]
  exact Nat.le_trans (Nat.add_le_add_right leaves.size_le _) separates.room

/-- The second errand comes to the same as it does without the first one. -/
theorem second (separates : r.Separates a b) (stopped : Bool) :
    Errand.SameOutcome b.subject (r.Involves b.subject) (b.prospect stopped r)
      (b.prospect stopped (a.prospect stopped r).roster) := by
  have room : b.Fits r.registry := by
    have room := separates.room
    unfold Errand.Fits
    omega
  exact Errand.prospect_congr (separates.agrees stopped) room (separates.fits stopped)

/-- The class under an id is the one that the errand leaves whose id it is. -/
theorem classes_second (separates : r.Separates a b) (stopped : Bool) (id : String) :
    (b.prospect stopped (a.prospect stopped r).roster).roster.classes id =
      if id = a.subject.id then (a.prospect stopped r).roster.classes id
      else if id = b.subject.id then (b.prospect stopped r).roster.classes id
      else r.classes id := by
  have leaves := b.leaves_prospect stopped (a.prospect stopped r).roster
  split
  · rename_i own
    exact leaves.classes_eq fun other => separates.ids (own.symm.trans other)
  · rename_i notFirst
    split
    · rename_i own
      rw [own, (separates.second stopped).agrees.class_eq]
    · rename_i notSecond
      rw [leaves.classes_eq notSecond, (a.leaves_prospect stopped r).classes_eq notFirst]

/-- The entry for a kind is the one that the errand leaves in which the kind is involved. -/
theorem entry_second (separates : r.Separates a b) (stopped : Bool) (kind : String) :
    let left := (b.prospect stopped (a.prospect stopped r).roster).roster.registry.get? kind
    (r.Involves a.subject kind → left = (a.prospect stopped r).roster.registry.get? kind) ∧
    (r.Involves b.subject kind → left = (b.prospect stopped r).roster.registry.get? kind) ∧
    (¬ r.Involves a.subject kind → ¬ r.Involves b.subject kind → left = r.registry.get? kind) := by
  have leaves := b.leaves_prospect stopped (a.prospect stopped r).roster
  have involves : (a.prospect stopped r).roster.Involves b.subject kind ↔ r.Involves b.subject kind := by
    rw [Roster.Involves, (separates.agrees stopped).class_eq]
    rfl
  refine ⟨fun first => ?_, fun second => ?_, fun notFirst notSecond => ?_⟩
  · exact leaves.get?_eq fun second => separates.kinds kind first (involves.1 second)
  · exact (separates.second stopped).agrees.entry_eq second
  · rw [leaves.get?_eq (mt involves.1 notSecond), (a.leaves_prospect stopped r).get?_eq notFirst]

/-- In either order the two errands leave the same roster. -/
theorem exchange (separates : r.Separates a b) (stopped : Bool) :
    (b.prospect stopped (a.prospect stopped r).roster).roster =
      (a.prospect stopped (b.prospect stopped r).roster).roster := by
  have classes : ∀ id, (b.prospect stopped (a.prospect stopped r).roster).roster.classes id =
      (a.prospect stopped (b.prospect stopped r).roster).roster.classes id := by
    intro id
    rw [separates.classes_second, separates.symm.classes_second]
    have differ : id = a.subject.id → id ≠ b.subject.id :=
      fun first second => separates.ids (first.symm.trans second)
    exact ite_ite_comm _ _ _ _ differ
  have entries : ∀ kind,
      (b.prospect stopped (a.prospect stopped r).roster).roster.registry.get? kind =
        (a.prospect stopped (b.prospect stopped r).roster).roster.registry.get? kind := by
    intro kind
    obtain ⟨ofFirst, ofSecond, ofNone⟩ := separates.entry_second stopped kind
    obtain ⟨ofFirst', ofSecond', ofNone'⟩ := separates.symm.entry_second stopped kind
    by_cases first : r.Involves a.subject kind
    · exact (ofFirst first).trans (ofSecond' first).symm
    · by_cases second : r.Involves b.subject kind
      · exact (ofSecond second).trans (ofFirst' second).symm
      · exact (ofNone first second).trans (ofNone' second first).symm
  have capacity : (b.prospect stopped (a.prospect stopped r).roster).roster.registry.capacity =
      (a.prospect stopped (b.prospect stopped r).roster).roster.registry.capacity := by
    simp only [(Errand.leaves_prospect _ stopped _).capacity_eq]
  exact Roster.ext (funext classes) (ClassRegistry.ext_get? capacity entries)

end Roster.Separates

end StreamOperator
