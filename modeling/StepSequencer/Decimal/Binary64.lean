/-!
# Binary fractions of 53 bits

`Binary64` is a finite number of the double format: a sign, and a significand times a power of
two. `ofRatio` rounds a quotient of naturals to the nearest such number, a tie to the one with
the even significand; it has no answer when the quotient is too large. Product and quotient of
two numbers are the rounded exact ones.

`ofDecimal` is the number that a decimal denotes when its digits have been gathered in a word of
64 bits: the significand is rounded, and one power of ten, rounded itself, is multiplied or
divided. Powers beyond the greatest one are divided in steps of `10 ^ 308`.
-/

set_option autoImplicit false
set_option relaxedAutoImplicit false

namespace StepSequencer.Decimal

/-- A finite number of the double format, `significand * 2 ^ exponent` under a sign. -/
structure Binary64 where
  negative : Bool
  significand : Nat
  exponent : Int
deriving DecidableEq, Repr

namespace Binary64

/-- The exponent of the smallest numbers. -/
def minExponent : Int := -1074

/-- The exponent of the largest numbers. -/
def maxExponent : Int := 971

/-- The least significand of 53 bits. -/
def leastSignificand : Nat := 0x10000000000000

/-- Zero under a sign. -/
def zero (negative : Bool) : Binary64 :=
  ⟨negative, 0, minExponent⟩

/-- Whether the number is zero of either sign. -/
def isZero (x : Binary64) : Bool :=
  x.significand == 0

/-- The magnitude as a quotient of naturals. -/
def toRatio (x : Binary64) : Nat × Nat :=
  (x.significand * Nat.pow 2 x.exponent.toNat, Nat.pow 2 (-x.exponent).toNat)

/-- A quotient of naturals rounded to a natural, a tie to the even neighbour. -/
def roundDiv (num den : Nat) : Nat :=
  let quotient := num / den
  let twice := 2 * (num % den)
  if den < twice || (twice == den && quotient % 2 == 1) then quotient + 1 else quotient

/-- The exponent at which a positive quotient has a significand of 53 bits, or the least one. -/
def exponentOf (num den : Nat) : Int :=
  let guess : Int := (num.log2 : Int) - (den.log2 : Int) - 52
  let whole := num * Nat.pow 2 (-guess).toNat / (den * Nat.pow 2 guess.toNat)
  max minExponent (if whole < leastSignificand then guess - 1 else guess)

/-- The nearest number to a quotient, if it is not beyond the largest one. -/
def ofRatio (num den : Nat) : Option Binary64 :=
  if num = 0 then some (zero false)
  else
    let exponent := exponentOf num den
    let rounded := roundDiv (num * Nat.pow 2 (-exponent).toNat) (den * Nat.pow 2 exponent.toNat)
    let (significand, exponent) :=
      if rounded = 2 * leastSignificand then (leastSignificand, exponent + 1)
      else (rounded, exponent)
    if maxExponent < exponent then none else some ⟨false, significand, exponent⟩

/-- The rounded product of two magnitudes. -/
def mul (x y : Binary64) : Option Binary64 :=
  let (xn, xd) := x.toRatio
  let (yn, yd) := y.toRatio
  ofRatio (xn * yn) (xd * yd)

/-- The rounded quotient of two magnitudes. -/
def div (x y : Binary64) : Option Binary64 :=
  let (xn, xd) := x.toRatio
  let (yn, yd) := y.toRatio
  ofRatio (xn * yd) (xd * yn)

/-- The greatest power of ten that can be multiplied in one step. -/
def maxPower : Nat := 308

/-- Divides by a power of ten in steps of the greatest one. The first argument bounds the
number of steps. -/
def dividePower : Nat → Binary64 → Nat → Option Binary64
  | 0, x, _ => some x
  | steps + 1, x, power =>
    if power ≤ maxPower then (ofRatio (Nat.pow 10 power) 1).bind x.div
    else if x.isZero then some x
    else do
      let y ← (ofRatio (Nat.pow 10 maxPower) 1).bind x.div
      dividePower steps y (power - maxPower)

/-- The number denoted by digits and a power of ten, if it is in range. -/
def ofDecimal (negative : Bool) (digits : Nat) (power : Int) : Option Binary64 := do
  let x ← ofRatio digits 1
  let y ←
    if power < 0 then dividePower (power.natAbs / maxPower + 1) x power.natAbs
    else if power ≤ maxPower then (ofRatio (Nat.pow 10 power.toNat) 1).bind x.mul
    else if x.isZero then some x
    else none
  return { y with negative := negative }

end Binary64

end StepSequencer.Decimal
