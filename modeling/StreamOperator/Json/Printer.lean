import StreamOperator.Json.Basic
import StreamOperator.Number.Shortest

/-!
# JSON text

The compact text of a value: no blanks, fields in the order they have. In a string the quote,
the backslash and the control characters are escaped and nothing else is.
-/

set_option autoImplicit false

namespace StreamOperator.Json

/-- Four hexadecimal digits of a code below 256. -/
def controlDigits (code : Nat) : List Char :=
  ['0', '0', Nat.digitChar (code / 16), Nat.digitChar (code % 16)]

/-- A character as it stands between the quotes. -/
def escapeChar (c : Char) : List Char :=
  if c = '"' then ['\\', '"']
  else if c = '\\' then ['\\', '\\']
  else if c = '\x08' then ['\\', 'b']
  else if c = '\x0c' then ['\\', 'f']
  else if c = '\n' then ['\\', 'n']
  else if c = '\r' then ['\\', 'r']
  else if c = '\t' then ['\\', 't']
  else if c.toNat < 0x20 then '\\' :: 'u' :: controlDigits c.toNat
  else [c]

/-- A string in quotes. -/
def stringChars (s : String) : List Char := '"' :: s.toList.flatMap escapeChar ++ ['"']

/-- The decimal digits of an integer. -/
def intChars (n : Int) : List Char :=
  if n < 0 then '-' :: Nat.toDigits 10 n.natAbs else Nat.toDigits 10 n.natAbs

mutual

/-- The characters of a value's text. -/
def chars : Json → List Char
  | null => ['n', 'u', 'l', 'l']
  | bool true => ['t', 'r', 'u', 'e']
  | bool false => ['f', 'a', 'l', 's', 'e']
  | int n => intChars n
  | float x => x.render
  | str s => stringChars s
  | arr [] => ['[', ']']
  | arr (item :: rest) => '[' :: chars item ++ itemChars rest
  | obj [] => ['\x7b', '\x7d']
  | obj ((key, value) :: rest) => '\x7b' :: stringChars key ++ ':' :: chars value ++ fieldChars rest

/-- The items after the first and the closing bracket. -/
def itemChars : List Json → List Char
  | [] => [']']
  | item :: rest => ',' :: chars item ++ itemChars rest

/-- The fields after the first and the closing brace. -/
def fieldChars : List (String × Json) → List Char
  | [] => ['\x7d']
  | (key, value) :: rest => ',' :: stringChars key ++ ':' :: chars value ++ fieldChars rest

end

/-- The compact text of a value. -/
def render (value : Json) : String := String.ofList value.chars

end StreamOperator.Json
