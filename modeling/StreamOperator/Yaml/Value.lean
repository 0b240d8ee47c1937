import StreamOperator.Yaml.Node

/-!
# Values of scalars

What a scalar is worth depends on what is asked for: any scalar is a text, and a plain one may be a
number or nothing.
-/

set_option autoImplicit false

namespace StreamOperator.Yaml

namespace Scalar

/-- Nothing at all is written. -/
def isEmpty (s : Scalar) : Bool := s.style == .plain && s.text == ""

/-- The words for nothing. -/
def isNullWord (text : String) : Bool := ["null", "Null", "NULL", "~"].contains text

def nullTag : String := "tag:yaml.org,2002:null"

def intTag : String := "tag:yaml.org,2002:int"

/-- Whether a scalar stands for nothing; one that is tagged so has to be a word for it. -/
def isNull (s : Scalar) : Result Bool :=
  if s.style ≠ .plain then .ok false
  else
    match s.tag with
    | none => .ok (s.text == "" || isNullWord s.text)
    | some tag =>
      if tag ≠ nullTag then .ok false
      else if isNullWord s.text then .ok true
      else .error (.wrongType "null")

/-! ## Numbers -/

/-- The value of a digit in a base up to sixteen. -/
def digit? (base : Nat) (c : Char) : Option Nat := (hexValue? c).filter (· < base)

/-- The number of at most 64 bits that a list of digits writes. -/
def digits? (base : Nat) (digits : List Char) : Option Nat :=
  if digits.isEmpty then none
  else
    (digits.foldl (fun number? d => do return (← number?) * base + (← digit? base d)) (some 0)).filter
      (· < Nat.pow 2 64)

/-- Digits that begin with a needless zero are no number. -/
def hasNeedlessZero : List Char → Bool
  | '0' :: rest => !rest.isEmpty && rest.all Char.isDigit
  | _ => false

/-- A natural number of at most 64 bits, after its sign: hexadecimal, octal, binary or decimal. -/
def unsigned? : List Char → Option Nat
  | '0' :: 'x' :: rest => digits? 16 rest
  | '0' :: 'o' :: rest => digits? 8 rest
  | '0' :: 'b' :: rest => digits? 2 rest
  | digits => if hasNeedlessZero digits then none else digits? 10 digits

/-- The natural number that a scalar writes, with a plus sign or without. -/
def natural? (s : Scalar) : Option Nat :=
  if s.style = .plain ∨ (s.style = .literal ∧ s.tag = some intTag) then
    match s.text.toList with
    | '+' :: rest => unsigned? rest
    | digits => unsigned? digits
  else none

end Scalar

namespace Node

/-- The text of a scalar. -/
def text : Node → Result String
  | .scalar s => .ok s.text
  | _ => .error (.wrongType "a string")

/-- The text of a scalar, or none. -/
def optionalText : Node → Result (Option String)
  | .scalar s => do if ← s.isNull then return none else return some s.text
  | _ => .error (.wrongType "a string")

def natural : Node → Result Nat
  | .scalar s =>
    match s.natural? with
    | some n => .ok n
    | none => .error (.wrongType "an integer")
  | _ => .error (.wrongType "an integer")

/-- The entries of a document that is a mapping, under their names; one of which nothing is written is
an empty mapping. -/
def fields (document : Node) : Result (List (String × Node)) :=
  match document.contentIn document with
  | .mapping entries =>
    entries.mapM fun (key, value) => do
      return (← (key.contentIn document).text, value.contentIn document)
  | .scalar s => if s.isEmpty then .ok [] else .error (.wrongType "a mapping")
  | _ => .error (.wrongType "a mapping")

end Node

end StreamOperator.Yaml
