import StreamOperator.Json.Cursor

/-!
# Strings in JSON text

The characters of a string up to its closing quote. In a string that is not kept, escapes have to be
well-formed and need not stand for characters.
-/

set_option autoImplicit false

namespace StreamOperator.Json.Quotation

def hexValue (c : Char) : Option Nat :=
  if '0' ≤ c ∧ c ≤ '9' then some (c.toNat - '0'.toNat)
  else if 'a' ≤ c ∧ c ≤ 'f' then some (c.toNat - 'a'.toNat + 10)
  else if 'A' ≤ c ∧ c ≤ 'F' then some (c.toNat - 'A'.toNat + 10)
  else none

/-- The number of four hexadecimal digits. -/
def hexCode (a b c d : Char) : Option Nat := do
  return ((← hexValue a) * 16 + (← hexValue b)) * 256 + (← hexValue c) * 16 + (← hexValue d)

def isHigh (code : Nat) : Bool := 0xD800 ≤ code && code < 0xDC00

def isLow (code : Nat) : Bool := 0xDC00 ≤ code && code < 0xE000

/-- The character of a pair of surrogate codes. -/
def pairChar (high low : Nat) : Char :=
  Char.ofNat (0x10000 + (high - 0xD800) * 0x400 + (low - 0xDC00))

/-- The character of a one-letter escape. -/
def shortEscape (c : Char) : Option Char :=
  if c = '"' ∨ c = '\\' ∨ c = '/' then some c
  else if c = 'b' then some '\x08'
  else if c = 'f' then some '\x0c'
  else if c = 'n' then some '\n'
  else if c = 'r' then some '\r'
  else if c = 't' then some '\t'
  else none

def flawed {α : Type} (flaw : Flaw) (place : Place) : Except TextError α :=
  .error ⟨.flaw flaw, place⟩

/-- The number of four hexadecimal digits at a place. -/
def code (place : Place) (cs : List Char) : Except TextError Nat :=
  let after := place.afterBytes 4 cs
  if (cs.take 4).foldl (fun size c => size + c.utf8Size) 0 < 4 then flawed .endOfString after
  else
    match cs with
    | a :: b :: c :: d :: _ =>
      match hexCode a b c d with
      | some n => .ok n
      | none => flawed .escape after
    | _ => flawed .escape after

/-- The character of a code that has been read. A high surrogate needs the escape of a low one. -/
def charOfCode (first : Nat) (place : Place) (cs : List Char) : Except TextError (Char × Nat) :=
  if isLow first then flawed .escapePair place
  else if !isHigh first then .ok (Char.ofNat first, 5)
  else
    match cs with
    | [] => flawed .endOfString place
    | ['\\'] => flawed .endOfString (place.after '\\')
    | '\\' :: 'u' :: rest => do
      let place := (place.after '\\').after 'u'
      let second ← code place rest
      if isLow second then return (pairChar first second, 11)
      else flawed .escapePair (place.afterBytes 4 rest)
    | '\\' :: rest => flawed .hexEnd ((place.after '\\').afterBytes 1 rest)
    | cs => flawed .hexEnd (place.afterBytes 1 cs)

/-- The character of an escape after its backslash, with the number of characters it takes. -/
def escaped (kept : Bool) (place : Place) : List Char → Except TextError (Char × Nat)
  | [] => flawed .endOfString place
  | 'u' :: rest => do
    let place := place.after 'u'
    let first ← code place rest
    if kept then charOfCode first (place.afterBytes 4 rest) (rest.drop 4) else return ('u', 5)
  | c :: rest =>
    match shortEscape c with
    | some x => .ok (x, 1)
    | none => flawed .escape (place.afterBytes 1 (c :: rest))

/-- The rest of a string after its opening quote; what is already read comes in reverse. -/
def text (kept : Bool) (read : List Char) (place : Place) (cs : List Char) :
    Except TextError (String × Cursor) :=
  match cs with
  | [] => flawed .endOfString place
  | '"' :: rest => .ok (String.ofList read.reverse, ⟨rest, place.after '"'⟩)
  | '\\' :: rest =>
    match escaped kept (place.after '\\') rest with
    | .error e => .error e
    | .ok (x, length) =>
      text kept (x :: read) ((place.after '\\').afterBytes length rest) (rest.drop length)
  | c :: rest =>
    if c.toNat < 0x20 then flawed .controlCharacter (if kept then place.after c else place)
    else text kept (c :: read) (place.after c) rest
termination_by cs.length
decreasing_by
  all_goals
    simp only [List.length_cons, List.length_drop]
    omega

end Quotation

/-- The string after an opening quote. -/
def Reader.text (kept : Bool) : Reader String := fun c => Quotation.text kept [] c.place c.rest

end StreamOperator.Json
