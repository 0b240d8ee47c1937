/-!
# What a request is sent to

The target of a request is a text: a path, and after a question mark the parameters of a query. A
number sign ends it. Not every character may stand in it, and the values of a query are written in a
form of their own: with every byte outside a small set of characters as a percent sign and two digits,
and with a plus sign for a space.
-/

set_option autoImplicit false

namespace StreamOperator

namespace Text

/-- An upper-case hexadecimal digit. -/
def upperHexDigit (n : Nat) : Char := if n < 10 then Char.ofNat (48 + n) else Char.ofNat (55 + n)

/-- The byte stands for itself: an ASCII letter, a digit or one of four marks. -/
def isFormPlain (b : Nat) : Bool :=
  (48 ≤ b && b ≤ 57) || (65 ≤ b && b ≤ 90) || (97 ≤ b && b ≤ 122)
    || b == 42 || b == 45 || b == 46 || b == 95

def formByte (b : Nat) : List Char :=
  if isFormPlain b then [Char.ofNat b]
  else if b = 32 then ['+']
  else ['%', upperHexDigit (b / 16), upperHexDigit (b % 16)]

/-- A text as a value of a query. -/
def formEncoded (s : String) : String :=
  String.ofList (s.toUTF8.toList.flatMap fun b => formByte b.toNat)

end Text

structure Target where
  path : String
  /-- The parameters in their order, with their values as they are written. -/
  parameters : List (String × String) := []
  deriving DecidableEq, Repr

namespace Target

/-- Why a text is no target. -/
inductive Fault where
  | character
  | length
  deriving DecidableEq, Repr

def Fault.message : Fault → String
  | character => "invalid uri character"
  | length => "uri too long"

/-- A character of a path. Braces and double quotes are let through. -/
def isPathChar (c : Char) : Bool :=
  '\x21' ≤ c && !"#<>?`".contains c

/-- A character of a query; quotes and angle brackets have to be escaped in it. -/
def isQueryChar (c : Char) : Bool := '\x21' ≤ c && !"\"#<>".contains c

/-- The greatest number of bytes of a target. -/
def greatestSize : Nat := Nat.pow 2 16 - 2

/-- The parameters of a query; a part without an equals sign is none. -/
def parametersOf (query : List Char) : List (String × String) :=
  (query.splitOn '&').filterMap fun part =>
    match part.dropWhile (· ≠ '=') with
    | [] => none
    | _ :: value => some (String.ofList (part.takeWhile (· ≠ '=')), String.ofList value)

/-- The target that a text names. -/
def ofText (text : String) : Except Fault Target :=
  if greatestSize < text.utf8ByteSize then .error .length
  else
    let whole := text.toList.takeWhile (· ≠ '#')
    let path := whole.takeWhile (· ≠ '?')
    let query := (whole.dropWhile (· ≠ '?')).drop 1
    if path.all isPathChar && query.all isQueryChar then
      .ok ⟨String.ofList path, parametersOf query⟩
    else .error .character

/-- The text of a query, to be put after a path. -/
def query (parameters : List (String × String)) : String :=
  String.join ("?" :: parameters.map fun p => "&" ++ p.1 ++ "=" ++ Text.formEncoded p.2)

/-- The value of a parameter, of several the last. -/
def parameter? (t : Target) (name : String) : Option String := t.parameters.reverse.lookup name

end Target

end StreamOperator
