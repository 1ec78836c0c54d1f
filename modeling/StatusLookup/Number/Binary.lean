import StatusLookup.Number.Power

/-!
# Binary floating-point numbers

A finite nonnegative number of double precision is a mantissa of at most 53 bits times a power of
two. Everything here is exact arithmetic on natural numbers: a quotient is rounded to the nearest
such number, a half going to the even mantissa, and a quotient that is too large has none.
-/

namespace StatusLookup

/-- The number `mantissa * 2 ^ exponent`. Its mantissa has 53 bits unless the exponent is the
least one. -/
structure Binary64 where
  mantissa : Nat
  exponent : Int
  deriving DecidableEq, Repr

namespace Binary64

def leastExponent : Int := -1074
def greatestExponent : Int := 971

def zero : Binary64 := ⟨0, leastExponent⟩

def isZero (x : Binary64) : Bool := x.mantissa == 0

/-- Numerator and denominator of the number. -/
def toRatio (x : Binary64) : Nat × Nat :=
  if 0 ≤ x.exponent then (x.mantissa * pow2 x.exponent.toNat, 1)
  else (x.mantissa, pow2 (-x.exponent).toNat)

/-- A quotient rounded to a natural number, a half going to the even neighbour. -/
def roundHalfEven (num den : Nat) : Nat :=
  let quotient := num / den
  let rest := num % den
  if 2 * rest < den then quotient
  else if den < 2 * rest then quotient + 1
  else quotient + quotient % 2

/-- Numerator and denominator of a quotient divided by a power of two. -/
def shiftRatio (num den : Nat) (exponent : Int) : Nat × Nat :=
  if 0 ≤ exponent then (num, den * pow2 exponent.toNat)
  else (num * pow2 (-exponent).toNat, den)

/-- The greatest power of two that is at most a positive quotient. -/
def floorLog2 (num den : Nat) : Int :=
  let guess : Int := (num.log2 : Int) - (den.log2 : Int)
  let (n, d) := shiftRatio num den guess
  if d ≤ n then guess else guess - 1

/-- The number nearest to a quotient, if it is not beyond the greatest one. -/
def nearest? (num den : Nat) : Option Binary64 :=
  if num = 0 then some zero
  else
    let exponent := max leastExponent (floorLog2 num den - 52)
    let (n, d) := shiftRatio num den exponent
    let mantissa := roundHalfEven n d
    let rounded : Binary64 :=
      if mantissa = pow2 53 then ⟨pow2 52, exponent + 1⟩ else ⟨mantissa, exponent⟩
    if rounded.exponent ≤ greatestExponent then some rounded else none

/-- The number nearest to a natural number times a power of ten. Powers that settle the matter are
not computed. -/
def ofDecimal? (digits : Nat) (exponent : Int) : Option Binary64 :=
  let size : Int := (Nat.toDigits 10 digits).length + exponent
  if digits = 0 ∨ size < -330 then some zero
  else if 310 < size then none
  else if 0 ≤ exponent then nearest? (digits * pow10 exponent.toNat) 1
  else nearest? digits (pow10 (-exponent).toNat)

def mul? (x y : Binary64) : Option Binary64 :=
  let (xn, xd) := x.toRatio
  let (yn, yd) := y.toRatio
  nearest? (xn * yn) (xd * yd)

def div? (x y : Binary64) : Option Binary64 :=
  let (xn, xd) := x.toRatio
  let (yn, yd) := y.toRatio
  nearest? (xn * yd) (xd * yn)

end Binary64

end StatusLookup
