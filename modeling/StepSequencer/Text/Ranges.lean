/-!
# Ranges of code points

A table of characters is a list of ranges, each given by its first and its last code point.
-/

set_option autoImplicit false
set_option relaxedAutoImplicit false

namespace StepSequencer.Text

/-- Whether a code point lies in one of some ranges, both ends included. -/
def inRanges (ranges : List (Nat × Nat)) (code : Nat) : Bool :=
  ranges.any fun range ↦ range.1 ≤ code && code ≤ range.2

end StepSequencer.Text
