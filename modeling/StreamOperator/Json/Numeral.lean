import StreamOperator.Json.Cursor

/-!
# Numbers in JSON text

A number without point and exponent is an integer while it fits 64 bits, signed or unsigned;
any other number, and `-0`, is a floating-point number. The digits of a numeral count as long
as their number stays below `2 ^ 64`: later ones in the integer part only move the point, later
ones in the fraction are dropped. A number that is not kept may be out of range.
-/

set_option autoImplicit false

namespace StreamOperator.Json

def limit64 : Nat := Nat.pow 2 64

/-- The digits read so far: the number they make and the power of ten it is to be multiplied by. -/
structure Numeral where
  significand : Nat := 0
  exponent : Int := 0

namespace Numeral

/-- Adds a digit of the integer part. -/
def pushInteger (n : Numeral) (digit : Nat) : Numeral :=
  if n.exponent = 0 ∧ n.significand * 10 + digit < limit64 then
    { n with significand := n.significand * 10 + digit }
  else { n with exponent := n.exponent + 1 }

/-- Adds a digit of the fraction; the flag tells whether such digits still count. -/
def pushFraction (state : Numeral × Bool) (digit : Nat) : Numeral × Bool :=
  let (n, counts) := state
  if counts && n.significand * 10 + digit < limit64 then
    (⟨n.significand * 10 + digit, n.exponent - 1⟩, true)
  else (n, false)

/-- The floating-point number a numeral denotes, if it is in range. -/
def float? (negative : Bool) (n : Numeral) : Option Json :=
  (Binary64.ofDecimal negative n.significand n.exponent).map float

/-- The number of a numeral with neither point nor exponent. -/
def whole? (negative : Bool) (n : Numeral) : Option Json :=
  if n.exponent ≠ 0 then n.float? negative
  else if !negative then some (int n.significand)
  else if n.significand = 0 ∨ Nat.pow 2 63 < n.significand then n.float? true
  else some (int (-(n.significand : Int)))

end Numeral

/-- Beyond this the digits of an exponent are not counted. -/
def greatestExponent : Nat := Nat.pow 2 31 - 1

/-- How many digits of an exponent it takes to exceed the greatest. -/
def excess? (digits : List Nat) : Option Nat :=
  (List.range (digits.length + 1)).find? fun n =>
    greatestExponent < (digits.take n).foldl (fun size digit => size * 10 + digit) 0

def isExponentMark (c : Char) : Bool := c == 'e' || c == 'E'

namespace Reader

/-- Takes the digits that stand next. -/
def digits : Reader (List Nat) := do
  let taken := (← get).rest.takeWhile Char.isDigit
  modify (·.skipMany taken.length)
  return taken.map fun d => d.toNat - '0'.toNat

/-- One digit or more. -/
def someDigits (kept : Bool) : Reader (List Nat) := do
  match ← digits, ← peek with
  | [], none => fail (if kept then .endOfValue else .number)
  | [], some _ => failNext .number
  | taken, _ => return taken

/-- The integer part: a zero alone, or digits of which the first is none. -/
def integerPart (kept : Bool) : Reader (List Nat) := do
  if ← accept '0' then
    if (← peek).any Char.isDigit then failNext .number
    return [0]
  someDigits kept

/-- A value that is out of range if there is none. -/
def inRange (value? : Option Json) : Reader Json :=
  match value? with
  | some value => return value
  | none => fail .range

/-- The exponent of a numeral, after its mark. -/
def exponentPart (kept negative : Bool) (n : Numeral) : Reader Json := do
  let down ← accept '-'
  if !down then let _ ← accept '+'
  let start ← get
  let ds ← someDigits kept
  if !kept then return null
  match excess? ds with
  | some count =>
    if n.significand ≠ 0 ∧ !down then
      set (start.skipMany count)
      fail .range
    return float { Binary64.zero with negative := negative }
  | none =>
    let size := Int.ofNat (ds.foldl (fun size digit => size * 10 + digit) 0)
    let exponent := if down then n.exponent - size else n.exponent + size
    inRange (Numeral.float? negative ⟨n.significand, exponent⟩)

/-- A number from its sign on. -/
def number (kept : Bool) : Reader Json := do
  let negative ← accept '-'
  let n := (← integerPart kept).foldl Numeral.pushInteger {}
  let isWhole := !(← accept '.')
  let n ← if isWhole then pure n else do
    pure ((← someDigits kept).foldl Numeral.pushFraction (n, true)).1
  if (← peek).any isExponentMark then
    advance
    exponentPart kept negative n
  else if !kept then return null
  else inRange (if isWhole then n.whole? negative else n.float? negative)

end Reader

end StreamOperator.Json
