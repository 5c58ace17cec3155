import StepSequencer.Assembly.Group

/-!
# The hat pattern as bits

Entries are taken eight at a time, one line each, and every entry but zero is written as one.
Newlines stand between the lines only.
-/

set_option autoImplicit false
set_option relaxedAutoImplicit false

namespace StepSequencer

/-- The digit of an entry. -/
def hatDigit (entry : UInt8) : Char :=
  if entry = 0 then '0' else '1'

/-- The line of some entries. -/
def hatLine (entries : List UInt8) : String :=
  byteLine ++ "%" ++ String.ofList (entries.map hatDigit)

/-- The text of a hat pattern of any length. -/
def hatText (pattern : List UInt8) : String :=
  "\n".intercalate ((cut slotsPerGroup pattern).map hatLine)

end StepSequencer
