/-!
# Binary floating-point numbers of 64 bits

A finite number is a sign, a significand below `2 ^ 53` and an exponent of two,
held in the normal form that rounding produces. All arithmetic is exact on
natural numbers followed by one rounding to the nearest number, a tie going to the
even significand.

A decimal numeral is read in two steps, each of them rounded: first its significand
becomes a number, then that number is multiplied or divided by a power of ten. The
result is the nearest number for every numeral of at most fifteen digits and a small
exponent, and may be one unit off beyond.
-/

set_option autoImplicit false

namespace StreamOperator

/-- The number `± significand * 2 ^ exponent`. -/
structure Binary64 where
  negative : Bool
  significand : Nat
  exponent : Int
  deriving DecidableEq, Repr

namespace Binary64

/-- The exponent of the smallest numbers. -/
def leastExponent : Int := -1074

/-- The exponent of the largest numbers. -/
def greatestExponent : Int := 971

/-- Positive zero. -/
def zero : Binary64 := ⟨false, 0, leastExponent⟩

instance : Inhabited Binary64 := ⟨zero⟩

def isZero (x : Binary64) : Bool := x.significand == 0

/-- Two numbers are equal as values: the two zeros are. -/
def sameValue (x y : Binary64) : Bool :=
  (x.isZero && y.isZero) || (x == y)

/-- The quotient rounded to the nearest natural number, a half to the even one. -/
def roundQuotient (num den : Nat) : Nat :=
  let quotient := num / den
  let rest := num % den
  if den < 2 * rest || (den == 2 * rest && quotient % 2 == 1) then quotient + 1 else quotient

/-- The ratio `num / (den * 2 ^ exponent)` as a pair of natural numbers. -/
def scaled (num den : Nat) (exponent : Int) : Nat × Nat :=
  if 0 ≤ exponent then (num, den * Nat.pow 2 exponent.toNat) else (num * Nat.pow 2 (-exponent).toNat, den)

/-- The exponent at which `num / den` has a significand of 53 bits, or the least one. -/
def exponentOf (num den : Nat) : Int :=
  let upper : Int := (Nat.log2 num : Int) - (Nat.log2 den : Int) - 52
  let ratio := scaled num den upper
  let fitted := if ratio.1 / ratio.2 < Nat.pow 2 52 then upper - 1 else upper
  if fitted < leastExponent then leastExponent else fitted

/-- The number nearest to `num / den`, or none when it is out of range. -/
def ofRatio (negative : Bool) (num den : Nat) : Option Binary64 :=
  if num = 0 then some ⟨negative, 0, leastExponent⟩
  else
    let exponent := exponentOf num den
    let ratio := scaled num den exponent
    let significand := roundQuotient ratio.1 ratio.2
    let rounded : Binary64 :=
      if significand = Nat.pow 2 53 then ⟨negative, Nat.pow 2 52, exponent + 1⟩
      else ⟨negative, significand, exponent⟩
    if greatestExponent < rounded.exponent then none else some rounded

/-- The product of two numbers. -/
def mul (x y : Binary64) : Option Binary64 :=
  let exponent := x.exponent + y.exponent
  let ratio := scaled (x.significand * y.significand) 1 (-exponent)
  ofRatio (x.negative != y.negative) ratio.1 ratio.2

/-- The quotient of two numbers, of which the second is not zero. -/
def div (x y : Binary64) : Option Binary64 :=
  let ratio := scaled x.significand y.significand (y.exponent - x.exponent)
  ofRatio (x.negative != y.negative) ratio.1 ratio.2

/-- The number nearest to a natural number. -/
def ofNat? (n : Nat) : Option Binary64 := ofRatio false n 1

/-- The number nearest to a power of ten. -/
def powerOfTen (k : Nat) : Option Binary64 := ofRatio false (Nat.pow 10 k) 1

/-- The largest power of ten that is a number. -/
def greatestPowerOfTen : Nat := 308

/-- Scales by a power of ten. A power beyond the largest one is out of range upwards, and
downwards takes several divisions; four of them reduce every number below `2 ^ 64` to zero. -/
def scaleByTen (divisions : Nat) (x : Binary64) (exponent : Int) : Option Binary64 :=
  if exponent.natAbs ≤ greatestPowerOfTen then
    (powerOfTen exponent.natAbs).bind fun power =>
      if 0 ≤ exponent then x.mul power else x.div power
  else if x.isZero then some x
  else if 0 ≤ exponent then none
  else
    match divisions with
    | 0 => some { x with significand := 0, exponent := leastExponent }
    | divisions + 1 =>
      (powerOfTen greatestPowerOfTen).bind fun power =>
        (x.div power).bind fun y =>
          scaleByTen divisions y (exponent + greatestPowerOfTen)

/-- The number that the numeral `significand * 10 ^ exponent` denotes, or none when it is out of
range. -/
def ofDecimal (negative : Bool) (significand : Nat) (exponent : Int) : Option Binary64 :=
  (ofNat? significand).bind fun start =>
    (scaleByTen 4 start exponent).map fun x => { x with negative := negative }

end Binary64

end StreamOperator
