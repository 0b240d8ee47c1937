import StreamOperator.Json.Numeral
import StreamOperator.Json.Quotation

/-!
# Reading JSON text by its shape

A text is read for a value of some shape. Errors are found in the order of the text: what the text
has to be is checked as it is read, and what is not asked for is only passed over. A value that is
kept nests at most 127 deep; what is passed over nests as deep as it likes.
-/

set_option autoImplicit false

namespace StreamOperator.Json

/-- Refuses a value, or not. -/
abbrev Check := Json → Except DecodeError Unit

/-- How the fields of an object are read. -/
inductive FieldRule where
  /-- Fields of no name that is known are passed over; of those with one name the last counts. -/
  | last
  /-- Fields of no name that is known are passed over; a name stands once. The values may also be
  given as a list. -/
  | once
  /-- A known name stands once; all other fields are kept in their order. -/
  | others
  deriving DecidableEq, Repr

/-- What a text is read for. -/
inductive Shape where
  /-- A value of any kind. -/
  | any
  | scalar (check : Check)
  | optional (value : Shape)
  | list (check : Check) (item : Shape)
  | dictionary (check : Check) (value : Shape)
  /-- One of some names, or an object with the name as its only field and null under it. -/
  | variant (check : Check)
  | object (check : Check) (rule : FieldRule) (fields : List (String × Shape))

namespace Shape

/-- What refuses a value of another kind. -/
def check : Shape → Check
  | any | optional _ => fun _ => .ok ()
  | scalar check | list check _ | dictionary check _ | variant check | object check _ _ => check

/-- The shape of the value under a key; none if it is passed over. -/
def under? (key : String) : Shape → Option Shape
  | any => some any
  | dictionary _ value => some value
  | object _ rule fields =>
    match fields.lookup key with
    | some shape => some shape
    | none => if rule = .others then some any else none
  | _ => none

/-- A field that stands in an object for the second time is refused. -/
def refusesRepeat (key : String) (read : List (String × Json)) : Shape → Bool
  | object _ rule fields =>
    rule ≠ .last && (fields.lookup key).isSome && read.any fun field => field.1 == key
  | _ => false

/-- What becomes of the fields of an object. -/
def close (read : List (String × Json)) : Shape → Except DecodeError Json
  | object check .once _ => do
    let value := obj (Entries.ofList read)
    check value
    return value
  | object _ .others _ => .ok (obj read)
  | _ => .ok (obj (Entries.ofList read))

/-- The value under a key is refused by the object that it belongs to. -/
def judgeField (key : String) (value : Json) : Shape → Except DecodeError Unit
  | object check .last _ => check (obj [(key, value)])
  | _ => .ok ()

end Shape

namespace Reader

/-- Goes over a word of which the first letter has been seen. -/
def word (value : Json) : List Char → Reader Json
  | [] => return value
  | x :: xs => do
    match ← peek with
    | none => fail .endOfValue
    | some c => if c = x then do advance; word value xs else failNext .word

/-- A value that is no list and no object. -/
def scalar (kept : Bool) : Reader Json := do
  match ← peek with
  | none => fail .endOfValue
  | some '"' => advance; return str (← text kept)
  | some 'n' => word null ['n', 'u', 'l', 'l']
  | some 't' => word (bool true) ['t', 'r', 'u', 'e']
  | some 'f' => word (bool false) ['f', 'a', 'l', 's', 'e']
  | some c => if c = '-' ∨ c.isDigit then number kept else failNext .value

/-- The colon after a key. -/
def colon : Reader Unit := do
  match ← next with
  | some ':' => advance
  | some _ => failNext .colon
  | none => fail .endOfObject

/-! ## What is passed over -/

mutual

/-- Passes over a value. -/
def pass : Nat → Reader Unit
  | 0 => fail .nesting
  | fuel + 1 => do
    match ← next with
    | some '[' =>
      advance
      match ← next with
      | some ']' => advance
      | none => fail .endOfList
      | some _ => passItems fuel
    | some '\x7b' =>
      advance
      if (← next) == some '\x7d' then advance else passFields fuel
    | _ => let _ ← scalar false

/-- Passes over the items of a list. -/
def passItems : Nat → Reader Unit
  | 0 => fail .nesting
  | fuel + 1 => do
    pass fuel
    match ← next with
    | some ',' => advance; passItems fuel
    | some ']' => advance
    | some _ => failNext .listEnd
    | none => fail .endOfList

/-- Passes over the fields of an object. -/
def passFields : Nat → Reader Unit
  | 0 => fail .nesting
  | fuel + 1 => do
    match ← next with
    | some '"' => advance
    | some _ => failNext .keyText
    | none => fail .endOfObject
    let _ ← text false
    colon
    pass fuel
    match ← next with
    | some ',' => advance; passFields fuel
    | some '\x7d' => advance
    | some _ => failNext .objectEnd
    | none => fail .endOfObject

end

/-! ## What is kept -/

/-- Goes into a list or an object. -/
def enter (depth : Nat) : Reader Unit := do
  if depth = 0 then failNext .nesting
  advance

/-- The next item of a list is there, or the bracket that ends the list. -/
def nextItem (first : Bool) : Reader Bool := do
  match ← next with
  | none => fail .endOfList
  | some ']' => return false
  | some c =>
    if first then return true
    if c ≠ ',' then failNext .listEnd
    advance
    match ← next with
    | some ']' => failNext .trailingComma
    | some _ => return true
    | none => fail .endOfValue

/-- The next key of an object, or none before the brace that ends it. -/
def nextKey (first : Bool) : Reader (Option String) := do
  match ← next with
  | none => fail .endOfObject
  | some '\x7d' => return none
  | some c =>
    if !first then
      if c ≠ ',' then failNext .objectEnd
      advance
    match ← next with
    | some '"' =>
      advance
      return some (← text true)
    | some '\x7d' => failNext .trailingComma
    | some _ => failNext .keyText
    | none => fail .endOfValue

/-- The end of a list. -/
def listEnd : Reader Unit := do
  match ← next with
  | some ']' => advance
  | some ',' =>
    advance
    if (← next) == some ']' then failNext .trailingComma else failNext .trailingCharacters
  | some _ => failNext .trailingCharacters
  | none => fail .endOfList

/-- Refuses what has been read of a list, past its end if that is here. -/
def refuseList {α : Type} (error : DecodeError) : Reader α := do
  match ← next with
  | some ']' => advance
  | some ',' =>
    advance
    let _ ← next
  | _ => pure ()
  refuse error

/-- Refuses what has been read of an object, past its end if that is here. -/
def refuseObject {α : Type} (error : DecodeError) : Reader α := do
  if (← next) == some '\x7d' then advance
  refuse error

/-- What a name in the place of a variant is read as. -/
def checkIdentifier : Check
  | .str _ => .ok ()
  | value => Decode.mismatch value "variant identifier"

def checkUnit : Check
  | .null => .ok ()
  | value => Decode.mismatch value "unit"

/-- A scalar that passes a check. -/
def checked (check : Check) : Reader Json := do
  let read ← scalar true
  judge (check read)
  return read

mutual

/-- A value of a shape, within so many further levels of nesting. -/
def value (shape : Shape) (depth : Nat) : Nat → Reader Json
  | 0 => fail .nesting
  | fuel + 1 => do
    match shape, ← next with
    | _, none => fail .endOfValue
    | .optional _, some 'n' => scalar true
    | .optional shape, some _ => value shape depth fuel
    | .any, some '[' | .list _ _, some '[' =>
      enter depth
      return arr (← items shape (depth - 1) true fuel)
    | .any, some '\x7b' | .dictionary _ _, some '\x7b' | .object _ _ _, some '\x7b' =>
      enter depth
      fields shape (depth - 1) true [] fuel
    | .object check .last _, some '[' =>
      enter depth
      match check (arr []) with
      | .error e => refuseList e
      | .ok () => return null
    | .object check .once known, some '[' =>
      enter depth
      let read := arr (← positional (known.map Prod.snd) (depth - 1) true fuel)
      match check read with
      | .error e => refuseList e
      | .ok () =>
        listEnd
        return read
    | .variant check, some '\x7b' =>
      enter depth
      let name ← value (.scalar checkIdentifier) (depth - 1) fuel
      judge (check name)
      colon
      let content ← value (.scalar checkUnit) (depth - 1) fuel
      match name, ← next with
      | .str s, some '\x7d' =>
        advance
        return obj [(s, content)]
      | _, none => fail .endOfObject
      | _, _ => fail .value
    | .variant check, some '"' => checked check
    | .variant _, _ => failNext .value
    | shape, some '[' =>
      judge (shape.check (arr []))
      return null
    | shape, some '\x7b' =>
      judge (shape.check (obj []))
      return null
    | shape, some _ => checked shape.check
termination_by structural fuel => fuel

/-- The items of a list. -/
def items (shape : Shape) (depth : Nat) (first : Bool) : Nat → Reader (List Json)
  | 0 => fail .nesting
  | fuel + 1 => do
    if ← nextItem first then
      let item ← value (match shape with | .list _ item => item | other => other) depth fuel
      return item :: (← items shape depth false fuel)
    advance
    return []
termination_by structural fuel => fuel

/-- The values of the fields of an object that is given as a list, as far as it goes. -/
def positional (shapes : List Shape) (depth : Nat) (first : Bool) : Nat → Reader (List Json)
  | 0 => fail .nesting
  | fuel + 1 => do
    match shapes with
    | [] => return []
    | shape :: rest =>
      if ← nextItem first then
        let item ← value shape depth fuel
        return item :: (← positional rest depth false fuel)
      return []
termination_by structural fuel => fuel

/-- The fields of an object, after those that have been read; these come in reverse. -/
def fields (shape : Shape) (depth : Nat) (first : Bool) (read : List (String × Json)) :
    Nat → Reader Json
  | 0 => fail .nesting
  | fuel + 1 => do
    match ← nextKey first with
    | none =>
      advance
      judge (shape.close read.reverse)
    | some key =>
      if shape.refusesRepeat key read then refuseObject (.duplicateField key)
      colon
      match shape.under? key with
      | none =>
        pass fuel
        fields shape depth false read fuel
      | some under =>
        let item ← value under depth fuel
        match shape.judgeField key item with
        | .error e => refuseObject e
        | .ok () => fields shape depth false ((key, item) :: read) fuel
termination_by structural fuel => fuel

end

/-- The number of lists and objects that may be open at once. -/
def greatestDepth : Nat := 127

/-- The end of a text. -/
def done : Reader Unit := do
  if (← next).isSome then failNext .trailingCharacters

end Reader

/-- Reads a text for a value of a shape, and makes something of the value. -/
def readText {α : Type} (shape : Shape) (make : Json → Except DecodeError α) (text : String) :
    Except TextError α :=
  let cs := text.toList
  let reader : Reader α := do
    let read ← Reader.value shape Reader.greatestDepth (2 * cs.length + 2)
    let made ← Reader.judge (make read)
    Reader.done
    return made
  (·.1) <$> reader.run ⟨cs, {}⟩

/-- The value that a text holds, if it is one value with nothing but blanks around it. -/
def ofText? (text : String) : Option Json := (readText .any .ok text).toOption

end StreamOperator.Json
