import StreamOperator.Json.Decode

/-!
# Records

A record is read from an object by the names of its fields. Some records may also be given as a
list of their fields in the order of declaration. A field that is present and has a wrong value is
reported before one that is missing; wrong values are reported in the order of the keys, missing
fields in the order of declaration. Keys that name no field are ignored. Fields that a record has but
that nothing looks into are kept together, as they stand (`OtherFields`).
-/

set_option autoImplicit false

namespace StreamOperator

/-- How a field is read and what it is when it is absent, from an object or from the end of a list. -/
structure Field (α : Type) where
  name : String
  decode : Decoder α
  absent : Option α
  absentAtEnd : Option α

namespace Field

variable {α : Type}

/-- A field without which there is no record. -/
def required (name : String) (decode : Decoder α) : Field α := ⟨name, decode, none, none⟩

/-- A field with a value of its own when it is absent. -/
def defaulted (name : String) (decode : Decoder α) (default : α) : Field α :=
  ⟨name, decode, some default, some default⟩

/-- A field that may be absent or null. -/
def optional (name : String) (decode : Decoder α) : Field (Option α) :=
  defaulted name (Decode.optional decode) none

/-- A field that may be absent or null in an object and has to stand in a list. -/
def optionalByName (name : String) (decode : Decoder α) : Field (Option α) :=
  ⟨name, Decode.optional decode, some none, none⟩

end Field

/-- The fields of a record that nothing looks into, out of those with the given names. They are kept as
they stand; null counts as absent. -/
structure OtherFields (names : List String) where
  values : Dictionary Json
  known : ∀ entry ∈ values.toList, entry.1 ∈ names ∧ entry.2 ≠ .null
  deriving DecidableEq

namespace OtherFields

variable {names : List String}

def empty : OtherFields names := ⟨.empty, nofun⟩

/-- What stands under the names. -/
def present (names : List String) (values : String → Option Json) : List (String × Json) :=
  names.filterMap fun name => ((values name).filter (· ≠ .null)).map fun value => (name, value)

theorem known_of_mem_present {values : String → Option Json} {entry : String × Json}
    (member : entry ∈ present names values) : entry.1 ∈ names ∧ entry.2 ≠ .null := by
  obtain ⟨name, named, made⟩ := List.mem_filterMap.1 member
  obtain ⟨value, kept, rfl⟩ := Option.map_eq_some_iff.1 made
  exact ⟨named, of_decide_eq_true (Option.filter_eq_some_iff.1 kept).2⟩

def ofValues (names : List String) (values : String → Option Json) : OtherFields names where
  values := .ofList (present names values)
  known _ member := known_of_mem_present (Entries.mem_of_mem_ofList member)

/-- The fields as they are written. -/
def fields (o : OtherFields names) : List (String × Option Json) :=
  o.values.toList.map fun entry => (entry.1, some entry.2)

end OtherFields

/-- A reader for the fields of a record. -/
structure Record (α : Type) where
  /-- The number of fields. -/
  size : Nat
  /-- The fields in the order of declaration, with the shapes of their values. -/
  shapes : List (String × Json.Shape)
  /-- Checks the value under a key. -/
  check : String → Json → Except DecodeError Unit
  /-- Builds the record from the values under the keys, once they are checked. -/
  build : (String → Option Json) → Except DecodeError α
  /-- Builds the record from a list, given the index of its first field and the error for a list that
  ends too early; returns what is left of the list. -/
  take : (Nat → DecodeError) → Nat → List Json → Except DecodeError (α × List Json)

namespace Record

variable {α β : Type}

/-- The record without fields. -/
def const (a : α) : Record α where
  size := 0
  shapes := []
  check _ _ := .ok ()
  build _ := .ok a
  take _ _ rest := .ok (a, rest)

/-- Adds a field after those of a record. -/
def and (r : Record (α → β)) (field : Field α) : Record β where
  size := r.size + 1
  shapes := r.shapes ++ [(field.name, field.decode.shape)]
  check key value :=
    if key = field.name then (fun _ => ()) <$> field.decode value else r.check key value
  build values := do
    let f ← r.build values
    match values field.name, field.absent with
    | some value, _ => f <$> field.decode value
    | none, some default => .ok (f default)
    | none, none => .error (.missingField field.name)
  take short index items := do
    let (f, rest) ← r.take short index items
    match rest, field.absentAtEnd with
    | item :: rest, _ => do
      let a ← field.decode item
      return (f a, rest)
    | [], some default => .ok (f default, [])
    | [], none => .error (short (index + r.size))

/-- Adds the fields that nothing looks into. Any value is accepted there; a list does not have them. -/
def andOthers {names : List String} (r : Record (OtherFields names → β)) : Record β where
  size := r.size
  shapes := r.shapes ++ names.map fun name => (name, .any)
  check key value := if key ∈ names then .ok () else r.check key value
  build values := (· (.ofValues names values)) <$> r.build values
  take short index items := Prod.map (· .empty) id <$> r.take short index items

/-- Checks the values of an object in the order of its keys. -/
def checkAll (r : Record α) : List (String × Json) → Except DecodeError Unit
  | [] => .ok ()
  | (key, value) :: rest =>
    match r.check key value with
    | .error e => .error e
    | .ok () => checkAll r rest

/-- Reads a record from the fields of an object. -/
def ofFields (r : Record α) (fields : List (String × Json)) : Except DecodeError α := do
  r.checkAll fields
  r.build fun key => Entries.get? key fields

/-- A record that has to be an object, under the name messages give it. -/
def object (expected : String) (r : Record α) : Decoder α :=
  let run : Json → Except DecodeError α
    | .obj fields => r.ofFields fields
    | value => Decode.mismatch value expected
  ⟨run, .object (Decoder.checkOf run) .last r.shapes⟩

/-- The name of a record with its number of fields. -/
def sized (name : String) (size : Nat) : String :=
  if size = 1 then s!"struct {name} with 1 element" else s!"struct {name} with {size} elements"

/-- A record that may also be given as the list of its fields. -/
def struct (name : String) (r : Record α) : Decoder α :=
  let run : Json → Except DecodeError α
    | .obj fields => r.ofFields fields
    | .arr items => do
      let (a, rest) ← r.take (fun length => .invalidLength length (sized name r.size)) 0 items
      if rest.isEmpty then .ok a
      else .error (.invalidLength items.length "fewer elements in array")
    | value => Decode.mismatch value ("struct " ++ name)
  ⟨run, .object (Decoder.checkOf run) .once r.shapes⟩

end Record

end StreamOperator
