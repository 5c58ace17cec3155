import StepSequencer.Json.Cursor

/-!
# Numerals

A numeral is an integer part without needless zeros, then possibly a fraction and an exponent.
Its digits are gathered in a word of 64 bits; digits of the integer part that no longer fit
count as powers of ten, those of the fraction are dropped. A numeral without fraction and
exponent whose digits all fit is an integer, unless it is negative and zero or below `-2 ^ 63`.
An exponent beyond 31 bits is out of range, or makes the number zero.
-/

set_option autoImplicit false
set_option relaxedAutoImplicit false

namespace StepSequencer.Json

/-- The value of a decimal digit. -/
def digitValue (d : Char) : Nat :=
  d.toNat - '0'.toNat

/-- Gathers digits in a word as long as it stays below a limit; the others are left. -/
def gather (limit : Nat) : Nat → List Char → Nat × List Char
  | word, [] => (word, [])
  | word, d :: rest =>
    if 10 * word + digitValue d < limit then gather limit (10 * word + digitValue d) rest
    else (word, d :: rest)

/-- The digits at the front of what is left. -/
def Cursor.digits (c : Cursor) : List Char :=
  c.rest.takeWhile Char.isDigit

/-- The limit of the digits of a number. -/
def wordLimit : Nat := 0x10000000000000000

/-- The limit of the digits of an exponent. -/
def exponentLimit : Nat := 0x80000000

/-- The number with some digits and a power of ten, or a fault at the cursor. -/
def scaled (negative : Bool) (word : Nat) (power : Int) (c : Cursor) : Reading Number :=
  match Decimal.Binary64.ofDecimal negative word power with
  | some x => .ok (.float x, c)
  | none => .error (c.here .numberOutOfRange)

/-- Reads the digits of an exponent, after its sign. -/
def readExponentDigits (negative : Bool) (word : Nat) (power : Int) (descending : Bool)
    (c : Cursor) : Reading Number :=
  match c.rest with
  | [] => .error (c.here .endInValue)
  | d :: _ =>
    if d.isDigit then
      let digits := c.digits
      let (exponent, left) := gather exponentLimit 0 digits
      let final := c.drop digits.length
      if left.isEmpty then
        scaled negative word (if descending then power - exponent else power + exponent) final
      else if word ≠ 0 ∧ !descending then
        .error ((c.drop (digits.length - left.length)).past .numberOutOfRange)
      else .ok (.float (.zero negative), final)
    else .error (c.past .invalidNumber)

/-- Reads an exponent, after its letter. -/
def readExponent (negative : Bool) (word : Nat) (power : Int) (c : Cursor) : Reading Number :=
  match c.rest with
  | '+' :: _ => readExponentDigits negative word power false (c.drop 1)
  | '-' :: _ => readExponentDigits negative word power true (c.drop 1)
  | _ => readExponentDigits negative word power false c

/-- Whether an exponent starts here. -/
def Cursor.atExponent (c : Cursor) : Bool :=
  match c.rest with
  | 'e' :: _ => true
  | 'E' :: _ => true
  | _ => false

/-- Reads a fraction, after its point, and the exponent behind it. -/
def readFraction (negative : Bool) (word : Nat) (power : Int) (c : Cursor) : Reading Number :=
  let digits := c.digits
  if digits.isEmpty then
    .error (c.ahead (if c.rest.isEmpty then .endInValue else .invalidNumber))
  else
    let (word, left) := gather wordLimit word digits
    let power := power - (digits.length - left.length : Nat)
    let next := c.drop digits.length
    if next.atExponent then readExponent negative word power (next.drop 1)
    else scaled negative word power next

/-- The number without fraction and exponent. -/
def wholeNumber (negative : Bool) (word : Nat) (c : Cursor) : Reading Number :=
  if !negative then .ok (.integer word, c)
  else if word = 0 ∨ 0x8000000000000000 < word then scaled negative word 0 c
  else .ok (.integer (-word), c)

/-- Reads what follows the digits of the integer part, of which some number did not fit. -/
def readAfterInteger (negative : Bool) (word : Nat) (dropped : Nat) (c : Cursor) :
    Reading Number :=
  if c.atExponent then readExponent negative word dropped (c.drop 1)
  else
    match c.rest with
    | '.' :: _ => readFraction negative word dropped (c.drop 1)
    | _ =>
      if dropped = 0 then wholeNumber negative word c else scaled negative word dropped c

/-- Reads a numeral, after its sign. -/
def readNumeral (negative : Bool) (c : Cursor) : Reading Number :=
  match c.rest with
  | [] => .error (c.here .endInValue)
  | d :: _ =>
    let digits := c.digits
    if d = '0' then
      if digits.length = 1 then readAfterInteger negative 0 0 (c.drop 1)
      else .error ((c.drop 1).ahead .invalidNumber)
    else if d.isDigit then
      let (word, left) := gather wordLimit 0 digits
      readAfterInteger negative word left.length (c.drop digits.length)
    else .error (c.past .invalidNumber)

end StepSequencer.Json
