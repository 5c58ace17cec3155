/-!
# Coloured words

Words on a terminal can be bold or dim and have a colour, by control sequences around them. For
each kind of output it is decided once per run whether they are, by three variables: one that
forces colours, one that forbids them, and one that turns them off where they are not forced.

* For the output of commands (`Ink.ofVariables`) the variable that forces counts before the one
  that forbids, and without either colours are for terminals only.
* For messages about arguments (`Ink.ofArgumentVariables`) the variable that forbids counts
  first, and one that is set to nothing does not count.
* Log lines (`Ink.ofLogVariables`) are coloured unless that is forbidden.

`Ink.paint` starts a look again where the words end one themselves. `Ink.mark` leaves the words as
they are if there are colours, and takes all control sequences out of them if there are none
(`withoutControls`).
-/

set_option autoImplicit false
set_option relaxedAutoImplicit false

namespace StepSequencer

/-! ### Looks -/

/-- How words look. -/
inductive Look where
  | bold
  | dim
  | italic
  | red
  | green
  | yellow
  | blue
  | purple
  | cyan
  | boldRed
  | boldGreen
  | boldYellow
  | boldCyan
deriving DecidableEq, Repr

/-- The parameters of the control sequence for a look. -/
def Look.codes : Look → String
  | .bold => "1"
  | .dim => "2"
  | .italic => "3"
  | .red => "31"
  | .green => "32"
  | .yellow => "33"
  | .blue => "34"
  | .purple => "35"
  | .cyan => "36"
  | .boldRed => "1;31"
  | .boldGreen => "1;32"
  | .boldYellow => "1;33"
  | .boldCyan => "1;36"

/-- The control sequence that ends a look. -/
def plainSequence : String := "\x1b[0m"

/-- The control sequence that starts a look. -/
def Look.sequence (look : Look) : String :=
  "\x1b[" ++ look.codes ++ "m"

/-! ### Control sequences in words -/

/-- Where a reader of control sequences stands: between them, behind the escape character, behind
characters that continue an escape, in a sequence with parameters, in a string that ends at the
bell, or in another string. -/
inductive ControlState where
  | outside
  | escape
  | escapeTail
  | parameters
  | title
  | string
deriving DecidableEq, Repr

/-- Whether a control character is only a blank. -/
def isBlankControl (c : Char) : Bool :=
  c = '\t' || c = '\n' || c = '\x0c' || c = '\r'

namespace ControlState

/-- The state behind a character that the escape character is followed by. -/
def afterEscape (c : Char) : ControlState :=
  if c = '[' then .parameters
  else if c = ']' then .title
  else if c = 'P' || c = 'X' || c = '^' || c = '_' then .string
  else if ' ' ≤ c && c ≤ '/' then .escapeTail
  else if '0' ≤ c && c ≤ '~' then .outside
  else .escape

/-- The state behind a character, and whether the character is shown. The escape character starts
a sequence anywhere, and the characters of code 24 and 26 end one. -/
def next (state : ControlState) (c : Char) : ControlState × Bool :=
  if c = '\x1b' then (.escape, false)
  else if c = '\x18' || c = '\x1a' then (.outside, false)
  else match state with
    | .outside => (.outside, ' ' ≤ c && c ≠ '\x7f' || isBlankControl c)
    | .title => (if c = '\x07' then .outside else .title, false)
    | .string => (.string, false)
    | .escape => if isBlankControl c then (.outside, true) else (afterEscape c, false)
    | .escapeTail =>
      if isBlankControl c then (.outside, true)
      else (if '0' ≤ c && c ≤ '~' then .outside else .escapeTail, false)
    | .parameters =>
      if isBlankControl c then (.outside, true)
      else (if '@' ≤ c && c ≤ '~' then .outside else .parameters, false)

/-- The characters that are shown, read from a state on. -/
def shown : ControlState → List Char → List Char
  | _, [] => []
  | state, c :: rest =>
    let (state, visible) := state.next c
    if visible then c :: state.shown rest else state.shown rest

end ControlState

/-- Words without control sequences and control characters other than blanks. -/
def withoutControls (words : String) : String :=
  String.ofList (ControlState.outside.shown words.toList)

/-! ### Painting -/

/-- Whether words are coloured. -/
structure Ink where
  coloured : Bool
deriving DecidableEq, Repr

namespace Ink

/-- Words with a look. Where they end a look themselves, theirs starts again. -/
def paint (ink : Ink) (look : Look) (words : String) : String :=
  if ink.coloured then
    look.sequence ++ words.replace plainSequence (plainSequence ++ look.sequence) ++ plainSequence
  else words

/-- Words with some looks, or without any control sequences. -/
def mark (ink : Ink) (looks : List Look) (words : String) : String :=
  if ink.coloured then String.join (looks.map Look.sequence) ++ words ++ plainSequence
  else withoutControls words

/-! ### Deciding -/

/-- Whether to colour the output, given the variables of the run and whether it goes to a
terminal. -/
def ofVariables (lookup : String → Option String) (terminal : Bool) : Ink :=
  match lookup "CLICOLOR_FORCE", lookup "NO_COLOR" with
  | some force, forbidden =>
    if force ≠ "0" then ⟨true⟩
    else ⟨forbidden.isNone && terminal && lookup "CLICOLOR" != some "0"⟩
  | none, forbidden => ⟨forbidden.isNone && terminal && lookup "CLICOLOR" != some "0"⟩

/-- Whether a variable is set to something. -/
def isFilled (lookup : String → Option String) (name : String) : Bool :=
  match lookup name with
  | some value => !value.isEmpty
  | none => false

/-- Whether to colour messages about arguments, given the variables of the run and whether they go
to a terminal. -/
def ofArgumentVariables (lookup : String → Option String) (terminal : Bool) : Ink :=
  if isFilled lookup "NO_COLOR" then ⟨false⟩
  else ⟨isFilled lookup "CLICOLOR_FORCE" || (terminal && lookup "CLICOLOR" != some "0")⟩

/-- Whether to colour log lines, given the variables of the run. -/
def ofLogVariables (lookup : String → Option String) : Ink :=
  ⟨!isFilled lookup "NO_COLOR"⟩

end Ink

end StepSequencer
