import StreamOperator.Json.Shape

/-!
# Decoding

Typed values are read from JSON values by decoders. A decoder that refuses a value says what it
found and what it expected. It also knows the shape of the texts that it reads, so that a text is
refused at the first place that is wrong.
-/

set_option autoImplicit false

namespace StreamOperator

/-- Reads a value of a type from a JSON value, or from a text. -/
structure Decoder (α : Type) where
  run : Json → Except DecodeError α
  shape : Json.Shape

namespace Decoder

variable {α β : Type}

instance : CoeFun (Decoder α) fun _ => Json → Except DecodeError α := ⟨run⟩

/-- Whether a value is refused. -/
def checkOf (run : Json → Except DecodeError α) : Json.Check := fun value => (fun _ => ()) <$> run value

/-- A decoder of values that are no lists and no objects. -/
def scalar (run : Json → Except DecodeError α) : Decoder α := ⟨run, .scalar (checkOf run)⟩

def map (f : α → β) (decode : Decoder α) : Decoder β := ⟨fun value => f <$> decode value, decode.shape⟩

/-- The value that a text holds. -/
def ofText (decode : Decoder α) (text : String) : Except Json.TextError α :=
  Json.readText decode.shape decode.run text

end Decoder

namespace Decode

/-- Any value, as it is. -/
def json : Decoder Json := ⟨.ok, .any⟩

def text : Decoder String := .scalar fun value =>
  match value with
  | .str s => .ok s
  | value => mismatch value "a string"

def boolean : Decoder Bool := .scalar fun value =>
  match value with
  | .bool b => .ok b
  | value => mismatch value "a boolean"

/-- An integer from `least` to `greatest`. -/
def integer (kind : String) (least greatest : Int) : Decoder Int := .scalar fun value =>
  match value with
  | .int n =>
    if least ≤ n ∧ n ≤ greatest then .ok n else .error (.invalidValue (.int n) kind)
  | value => mismatch value kind

/-- A natural number of at most `bits` bits. -/
def natural (kind : String) (bits : Nat) : Decoder Nat := .scalar fun value =>
  match value with
  | .int n =>
    if 0 ≤ n ∧ n < Nat.pow 2 bits then .ok n.toNat else .error (.invalidValue (.int n) kind)
  | value => mismatch value kind

def signed64 : Decoder Int := integer "i64" (-(Nat.pow 2 63)) (Nat.pow 2 63 - 1)

def signed32 : Decoder Int := integer "i32" (-(Nat.pow 2 31)) (Nat.pow 2 31 - 1)

def size : Decoder Nat := natural "usize" 64

def unsigned64 : Decoder Nat := natural "u64" 64

def unsigned32 : Decoder Nat := natural "u32" 32

def unsigned16 : Decoder Nat := natural "u16" 16

/-- A value, or null for none. -/
def optional {α : Type} (decode : Decoder α) : Decoder (Option α) where
  run
    | .null => .ok none
    | value => some <$> decode value
  shape := .optional decode.shape

/-- The items of a list, in order. -/
def items {α : Type} (decode : Decoder α) : List Json → Except DecodeError (List α)
  | [] => .ok []
  | item :: rest =>
    match decode item with
    | .error e => .error e
    | .ok x => (x :: ·) <$> items decode rest

def list {α : Type} (decode : Decoder α) : Decoder (List α) :=
  let run : Json → Except DecodeError (List α)
    | .arr xs => items decode xs
    | value => mismatch value "a sequence"
  ⟨run, .list (Decoder.checkOf run) decode.shape⟩

/-- The entries of an object, in order. -/
def entries {α : Type} (decode : Decoder α) :
    List (String × Json) → Except DecodeError (List (String × α))
  | [] => .ok []
  | (key, value) :: rest =>
    match decode value with
    | .error e => .error e
    | .ok x => ((key, x) :: ·) <$> entries decode rest

def dictionary {α : Type} (decode : Decoder α) : Decoder (Dictionary α) :=
  let run : Json → Except DecodeError (Dictionary α)
    | .obj fields => Dictionary.ofList <$> entries decode fields
    | value => mismatch value "a map"
  ⟨run, .dictionary (Decoder.checkOf run) decode.shape⟩

/-- One of a list of named values: by its name, or as an object with the name as its only field and
null under it. -/
def variant {α : Type} (all : List α) (name : α → String) : Decoder α :=
  let named (s : String) : Except DecodeError α :=
    match all.find? fun a => name a = s with
    | some a => .ok a
    | none => .error (.unknownVariant s (all.map name))
  let run : Json → Except DecodeError α
    | .str s => named s
    | .obj [(s, content)] => do
      let a ← named s
      match content with
      | .null => .ok a
      | content => mismatch content "unit"
    | .obj _ => .error (.invalidValue .map "map with a single key")
    | value => mismatch value "string or map"
  ⟨run, .variant (Decoder.checkOf run)⟩

end Decode

/-! ## Writing -/

namespace Encode

def natural (n : Nat) : Json := .int n

/-- Null for none. -/
def optional {α : Type} (encode : α → Json) : Option α → Json
  | none => .null
  | some x => encode x

def list {α : Type} (encode : α → Json) (xs : List α) : Json := .arr (xs.map encode)

def dictionary {α : Type} (encode : α → Json) (d : Dictionary α) : Json :=
  .obj (d.toList.map fun entry => (entry.1, encode entry.2))

end Encode

end StreamOperator
