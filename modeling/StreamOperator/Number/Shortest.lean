import StreamOperator.Number.Binary64

/-!
# The shortest decimal of a number

Among the decimals that read back as a given number, the shortest is the one of the
fewest digits, and of those the nearest to the number. The search goes through the
decimal grids of one digit, two digits and so on; on each grid the two neighbours of
the number are tested against the interval of reals that round to it. Seventeen digits
always suffice.

`render` writes the digits: plainly while the decimal exponent is between `-5` and `15`,
with an exponent otherwise.
-/

set_option autoImplicit false

namespace StreamOperator.Binary64

/-- The reals that round to a number, as `low / den` to `high / den` around `value / den`. The ends
belong to it when the significand is even. -/
structure Interval where
  low : Nat
  value : Nat
  high : Nat
  den : Nat
  closed : Bool

/-- The interval of a number: half a unit to each side, a quarter below a power of two. -/
def interval (x : Binary64) : Interval :=
  let m := x.significand
  let below := if m = Nat.pow 2 52 ∧ x.exponent ≠ leastExponent then 1 else 2
  let num := scaled 1 1 (2 - x.exponent)
  ⟨(4 * m - below) * num.1, 4 * m * num.1, (4 * m + 2) * num.1, num.2, m % 2 == 0⟩

/-- Whether `digits * 10 ^ unit` lies in the interval. -/
def Interval.has (i : Interval) (digits : Nat) (unit : Int) : Bool :=
  let point := if 0 ≤ unit then digits * Nat.pow 10 unit.toNat * i.den else digits * i.den
  let factor := if 0 ≤ unit then 1 else Nat.pow 10 (-unit).toNat
  if i.closed then i.low * factor ≤ point && point ≤ i.high * factor
  else i.low * factor < point && point < i.high * factor

/-- The position of the decimal point: the least `k` with `value < 10 ^ k`. -/
def Interval.point (i : Interval) : Int :=
  if i.den ≤ i.value then ((Nat.toDigits 10 (i.value / i.den)).length : Int)
  else
    let rec down : Nat → Nat → Int
      | 0, scaled => if i.den ≤ scaled then 1 else 0
      | steps + 1, scaled => if i.den ≤ scaled then 1 else down steps (10 * scaled) - 1
    down 400 i.value

/-- The digits of a grid point in the interval, when a neighbour of the value is one. -/
def Interval.onGrid (i : Interval) (unit : Int) : Option Nat :=
  let num := if 0 ≤ unit then i.value else i.value * Nat.pow 10 (-unit).toNat
  let den := if 0 ≤ unit then i.den * Nat.pow 10 unit.toNat else i.den
  let down := num / den
  let rest := num % den
  match i.has down unit && down != 0, i.has (down + 1) unit with
  | true, true =>
    if 2 * rest < den then some down
    else if den < 2 * rest then some (down + 1)
    else if down % 2 == 0 then some down else some (down + 1)
  | true, false => some down
  | false, true => some (down + 1)
  | false, false => none

/-- The digits and their unit, found on the grids from `count` digits on. -/
def Interval.search (i : Interval) (point : Int) : Nat → Nat → Nat × Int
  | 0, _ => (0, 0)
  | steps + 1, count =>
    match i.onGrid (point - count) with
    | some digits => (digits, point - count)
    | none => i.search point steps (count + 1)

/-- Drops the zeros at the end of a numeral. -/
def stripZeros : Nat → Nat × Int → Nat × Int
  | 0, d => d
  | steps + 1, (digits, unit) =>
    if digits % 10 == 0 && digits != 0 then stripZeros steps (digits / 10, unit + 1)
    else (digits, unit)

/-- The shortest decimal `digits * 10 ^ unit` of a number that is not zero. -/
def shortest (x : Binary64) : Nat × Int :=
  let i := x.interval
  stripZeros 20 (i.search i.point 17 1)

/-- Zeros. -/
def zeros (n : Nat) : List Char := List.replicate n '0'

/-- Writes the digits of `digits * 10 ^ unit`. -/
def renderDigits (digits : Nat) (unit : Int) : List Char :=
  let ds := Nat.toDigits 10 digits
  let point := (ds.length : Int) + unit
  if 0 ≤ unit ∧ point ≤ 16 then ds ++ zeros unit.toNat ++ ['.', '0']
  else if 0 < point ∧ point ≤ 16 then ds.take point.toNat ++ ['.'] ++ ds.drop point.toNat
  else if -5 < point ∧ point ≤ 0 then ['0', '.'] ++ zeros (-point).toNat ++ ds
  else
    let exponent := point - 1
    let mark := if exponent < 0 then ['e', '-'] else ['e', '+']
    let fraction := if ds.length = 1 then [] else '.' :: ds.drop 1
    ds.take 1 ++ fraction ++ mark ++ Nat.toDigits 10 exponent.natAbs

/-- The shortest text that reads back as the number. -/
def render (x : Binary64) : List Char :=
  let sign := if x.negative then ['-'] else []
  if x.isZero then sign ++ ['0', '.', '0']
  else sign ++ renderDigits x.shortest.1 x.shortest.2

end StreamOperator.Binary64
