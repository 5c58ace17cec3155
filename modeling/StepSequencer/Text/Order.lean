/-!
# The order of texts

Texts are ordered by their characters from the front, and characters by their code points. A text
comes before all texts that it starts.
-/

set_option autoImplicit false
set_option relaxedAutoImplicit false

namespace StepSequencer.Text

/-- Whether some characters come before others. -/
def precedesChars : List Char → List Char → Bool
  | _, [] => false
  | [], _ :: _ => true
  | c :: rest, d :: others =>
    if c = d then precedesChars rest others else decide (c.toNat < d.toNat)

/-- Whether a text comes before another one. -/
def precedes (text other : String) : Bool :=
  precedesChars text.toList other.toList

end StepSequencer.Text
