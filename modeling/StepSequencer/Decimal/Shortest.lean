import StepSequencer.Decimal.Binary64

/-!
# The shortest decimal that reads back

For each number of digits in turn, `shortest` looks at the two neighbours of the number on the
grid of decimals with that many digits, and takes the nearer one that lies in the interval of
reals which round to the number. The ends belong to the interval when the significand is even.

`text` lays the digits out: positionally while the decimal point falls close enough to them,
always with a point; otherwise with a signed exponent.
-/

set_option autoImplicit false
set_option relaxedAutoImplicit false

namespace StepSequencer.Decimal

/-- Digits, and the power of ten of the last one. -/
structure Digits where
  digits : Nat
  power : Int
deriving DecidableEq, Repr

namespace Binary64

/-- The quotient as a pair with a common scale: four times the magnitude, four times the lower
and the upper end of its interval, and the denominator. -/
def interval (x : Binary64) : Nat × Nat × Nat × Nat :=
  let m := x.significand
  let scale := Nat.pow 2 x.exponent.toNat
  let below := if m = leastSignificand ∧ minExponent < x.exponent then 1 else 2
  (4 * m * scale, (4 * m - below) * scale, (4 * m + 2) * scale, 4 * Nat.pow 2 (-x.exponent).toNat)

/-- Whether a decimal lies in the interval of reals that round to the number. -/
def readsBack (x : Binary64) (d : Digits) : Bool :=
  let (_, low, high, den) := x.interval
  let value := d.digits * Nat.pow 10 d.power.toNat * den
  let unit := Nat.pow 10 (-d.power).toNat
  if x.significand % 2 = 0 then low * unit ≤ value && value ≤ high * unit
  else low * unit < value && value < high * unit

/-- The power of ten of the first digit of a positive quotient. -/
def leadingPower (num den : Nat) : Int :=
  if den ≤ num then ((Nat.toDigits 10 (num / den)).length : Int) - 1
  else
    let scaled := den / num
    let places := (Nat.toDigits 10 scaled).length
    if den ≤ num * Nat.pow 10 (places - 1) then -((places : Int) - 1) else -(places : Int)

/-- The nearer of the two neighbours on the grid of a power of ten that reads back. -/
def onGrid (x : Binary64) (power : Int) : Option Digits :=
  let (value, _, _, den) := x.interval
  let num := value * Nat.pow 10 (-power).toNat
  let unit := den * Nat.pow 10 power.toNat
  let lower : Digits := ⟨num / unit, power⟩
  let upper : Digits := ⟨num / unit + 1, power⟩
  let rest := num % unit
  let nearer := if 2 * rest < unit || (2 * rest == unit && (num / unit) % 2 == 0)
    then [lower, upper] else [upper, lower]
  nearer.find? x.readsBack

/-- The first grid from a power of ten downwards with a decimal that reads back. -/
def firstGrid (x : Binary64) : Nat → Int → Digits
  | 0, power => ⟨x.significand, power⟩
  | tries + 1, power => (x.onGrid power).getD (x.firstGrid tries (power - 1))

/-- The decimal with the fewest digits that reads back. The first grid tried is one place above
the leading digit, where the number may round up to a power of ten. -/
def shortest (x : Binary64) : Digits :=
  let (value, _, _, den) := x.interval
  x.firstGrid 19 (leadingPower value den + 1)

end Binary64

/-- How a decimal is laid out: the places of the decimal point for which it is written
positionally. -/
structure Layout where
  leastPoint : Int
  greatestPoint : Int

/-- The layout of numbers in messages: positional from `0.00001` to 16 digits before the
point. -/
def messageLayout : Layout :=
  ⟨-4, 16⟩

/-- The digits as text, with a point or an exponent in every case. -/
def Layout.digitsText (layout : Layout) (d : Digits) : String :=
  let chars := Nat.toDigits 10 d.digits
  let point : Int := chars.length + d.power
  if layout.leastPoint ≤ point ∧ point ≤ layout.greatestPoint then
    if 0 ≤ d.power then
      String.ofList (chars ++ List.replicate d.power.toNat '0' ++ ['.', '0'])
    else if 0 < point then
      String.ofList (chars.take point.toNat ++ '.' :: chars.drop point.toNat)
    else
      String.ofList (['0', '.'] ++ List.replicate (-point).toNat '0' ++ chars)
  else
    let exponent := point - 1
    let sign := if exponent < 0 then '-' else '+'
    let mantissa := if chars.length = 1 then chars else chars.take 1 ++ '.' :: chars.drop 1
    String.ofList (mantissa ++ ['e', sign] ++ Nat.toDigits 10 exponent.natAbs)

/-- A number as text; zero keeps its sign. -/
def Layout.text (layout : Layout) (x : Binary64) : String :=
  let sign := if x.negative then "-" else ""
  if x.isZero then sign ++ "0.0" else sign ++ layout.digitsText x.shortest

end StepSequencer.Decimal
