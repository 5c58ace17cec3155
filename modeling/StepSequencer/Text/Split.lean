/-!
# Texts between dividers

`split` cuts a text at every occurrence of a character, so that a text with n of them has n + 1
parts, some of which may be empty.
-/

set_option autoImplicit false
set_option relaxedAutoImplicit false

namespace StepSequencer.Text

/-- The parts of a text between the occurrences of a character. -/
def split (divider : Char) : List Char → List (List Char)
  | [] => [[]]
  | c :: rest =>
    if c = divider then [] :: split divider rest
    else match split divider rest with
      | [] => [[c]]
      | part :: parts => (c :: part) :: parts

end StepSequencer.Text
