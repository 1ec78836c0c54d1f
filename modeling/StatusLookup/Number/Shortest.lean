import StatusLookup.Number.Binary

/-!
# Shortest decimal digits

A binary number is written with the fewest decimal digits that read back as that number, and of
these with the ones nearest to it. The numbers that read back form an interval around it, which
holds its ends when the mantissa is even. For each count of digits only the two neighbours on the
decimal grid need to be looked at.
-/

namespace StatusLookup

/-- The number `digits * 10 ^ exponent`. -/
structure DecimalDigits where
  digits : Nat
  exponent : Int
  deriving DecidableEq, Repr

namespace Binary64

/-- The decimals that read back as a number: those between `low / den` and `high / den`. -/
structure Interval where
  low : Nat
  value : Nat
  high : Nat
  den : Nat
  closed : Bool

/-- Half the way to either neighbour. Below the least mantissa of an exponent the neighbours are
twice as close. -/
def interval (x : Binary64) : Interval :=
  let below := if x.mantissa = pow2 52 ∧ leastExponent < x.exponent then 1 else 2
  let (n, d) := toRatio ⟨1, x.exponent - 2⟩
  { low := (4 * x.mantissa - below) * n
    value := 4 * x.mantissa * n
    high := (4 * x.mantissa + 2) * n
    den := d
    closed := x.mantissa % 2 == 0 }

/-- Whether `num / den` lies in the interval. -/
def Interval.holds (i : Interval) (num den : Nat) : Bool :=
  if i.closed then i.low * den ≤ num * i.den && num * i.den ≤ i.high * den
  else i.low * den < num * i.den && num * i.den < i.high * den

/-- How many digits stand before the decimal point of a positive quotient; zero or less when it is
below one tenth or one. -/
def pointPosition (num den : Nat) : Int :=
  if den ≤ num then (Nat.toDigits 10 (num / den)).length
  else
    match (List.range 400).find? fun j => den ≤ num * pow10 j with
    | some j => 1 - (j : Int)
    | none => 0

/-- The decimal on the grid of `10 ^ exponent` that lies in the interval and is nearest. -/
def Interval.onGrid? (i : Interval) (exponent : Int) : Option Nat :=
  let (unit, per) := if 0 ≤ exponent then (pow10 exponent.toNat, 1) else (1, pow10 (-exponent).toNat)
  let lower := i.value * per / (i.den * unit)
  let upper := lower + 1
  let lowerHolds := i.holds (lower * unit) per
  let upperHolds := i.holds (upper * unit) per
  let twice := 2 * i.value * per
  let middle := (lower + upper) * unit * i.den
  if lowerHolds && upperHolds then
    if twice < middle then some lower
    else if middle < twice then some upper
    else some (lower + lower % 2)
  else if lowerHolds then some lower
  else if upperHolds then some upper
  else none

def dropZeros : Nat → DecimalDigits → DecimalDigits
  | 0, d => d
  | n + 1, d =>
    if d.digits % 10 = 0 then dropZeros n ⟨d.digits / 10, d.exponent + 1⟩ else d

/-- The fewest digits that read back as a positive number. Seventeen always do. -/
def shortest (x : Binary64) : DecimalDigits :=
  let i := x.interval
  let position := pointPosition i.value i.den
  let found := (List.range 17).findSome? fun (n : Nat) =>
    let exponent := position - ((n : Int) + 1)
    (i.onGrid? exponent).map fun digits => DecimalDigits.mk digits exponent
  dropZeros 20 (found.getD ⟨0, 0⟩)

end Binary64

end StatusLookup
