import StepSequencer.Text.Alphanumeric
import StepSequencer.Text.Regular.Bracket

/-!
# Regular expressions

`isRegular` says whether a text is a regular expression: groups are closed, flags and names of
groups are known and not repeated, classes are complete, and every sign of repetition has
something to repeat. Expressions are nested at most `depthLimit` deep, where a group, a
repetition, a class, and several parts or branches side by side count one each.
-/

set_option autoImplicit false
set_option relaxedAutoImplicit false

namespace StepSequencer.Text.Regular

/-- The greatest depth of an expression. -/
def depthLimit : Nat := 250

/-! ### What has been read -/

/-- The last part that was read: its depth, and whether it can be repeated. -/
structure Part where
  depth : Nat
  repeatable : Bool
deriving DecidableEq, Repr

/-- An open group: the depth of the branches before, and the parts of the branch that is read. -/
structure Group where
  before : Option Nat := none
  row : Row := {}
  last : Option Part := none
deriving DecidableEq, Repr

namespace Group

/-- The parts of the branch that is read. -/
def branch (group : Group) : Row :=
  match group.last with
  | some part => group.row.add part.depth
  | none => group.row

/-- One more part. -/
def add (group : Group) (part : Part) : Group :=
  { group with row := group.branch, last := some part }

/-- Repeats the last part. -/
def repeatLast? (group : Group) : Option Group :=
  match group.last with
  | some ⟨depth, true⟩ => some { group with last := some ⟨depth + 1, true⟩ }
  | _ => none

/-- Starts another branch. -/
def divide (group : Group) : Group :=
  { before := some (max (group.before.getD 0) group.branch.total) }

/-- The depth of what has been read. -/
def total (group : Group) : Nat :=
  match group.before with
  | some before => max before group.branch.total + 1
  | none => group.branch.total

end Group

/-- Where the reading of an expression stands: the mode, the group that is open, the groups around
it with the modes they were left in, and the names of groups so far. -/
structure State where
  mode : Mode := {}
  group : Group := {}
  outer : List (Mode × Group) := []
  names : List (List Char) := []
deriving DecidableEq, Repr

namespace State

/-- One more part. -/
def add (state : State) (depth : Nat) : State :=
  { state with group := state.group.add ⟨depth, true⟩ }

/-- Opens a group that is read in a mode. -/
def enter (state : State) (mode : Mode) : State :=
  { state with mode, group := {}, outer := (state.mode, state.group) :: state.outer }

/-- Closes a group, if one is open. -/
def leave? (state : State) : Option State :=
  match state.outer with
  | [] => none
  | (mode, group) :: outer =>
    some { state with mode, group := group.add ⟨state.group.total + 1, true⟩, outer }

end State

/-! ### Groups -/

/-- Whether a text names a group: letters, numbers and a few signs, a letter or an underscore
first. -/
def isGroupName : List Char → Bool
  | [] => false
  | c :: rest =>
    (c = '_' || isAlphabetic c) &&
      rest.all fun c ↦ c = '_' || c = '.' || c = '[' || c = ']' || isAlphanumeric c

/-- Opens a named group behind the sign before its name. -/
def enterNamed? (state : State) (text : List Char) : Option (State × List Char) :=
  let name := text.takeWhile (· ≠ '>')
  match text.drop name.length with
  | [] => none
  | _ :: rest =>
    if isGroupName name && !state.names.contains name then
      some ({ state with names := name :: state.names }.enter state.mode, rest)
    else none

/-- Whether a text is a list of flags: each at most once, and a dash before those to turn off. -/
def isFlags (flags : List Char) : Bool :=
  flags.all (fun c ↦ "imsUuRx-".toList.contains c) && decide flags.Nodup &&
    flags.getLast? != some '-'

/-- Whether a flag is on behind a list of flags. -/
def flagAfter (flags : List Char) (flag : Char) (before : Bool) : Bool :=
  if (flags.takeWhile (· ≠ '-')).contains flag then true
  else before && !flags.contains flag

/-- The mode behind a list of flags. -/
def Mode.flagged (mode : Mode) (flags : List Char) : Mode where
  spaced := flagAfter flags 'x' mode.spaced
  unicode := flagAfter flags 'u' mode.unicode

/-- Reads flags behind their question mark, for what follows or for a group. -/
def readFlags? (state : State) (text : List Char) : Option (State × List Char) :=
  let flags := text.takeWhile fun c ↦ c ≠ ':' && c ≠ ')'
  let mode := state.mode.flagged flags
  if !isFlags flags then none
  else match text.drop flags.length with
    | ':' :: rest => some (state.enter mode, rest)
    | ')' :: rest =>
      if flags.isEmpty then none
      else some ({ state with mode, group := state.group.add ⟨0, false⟩ }, rest)
    | _ => none

/-- Reads the start of a group behind its parenthesis. -/
def readGroup? (state : State) (text : List Char) : Option (State × List Char) :=
  match advance state.mode text with
  | '?' :: 'P' :: '<' :: rest => enterNamed? state rest
  | '?' :: '<' :: rest => enterNamed? state rest
  | '?' :: rest => readFlags? state rest
  | text => some (state.enter state.mode, text)

/-! ### Expressions -/

/-- Repeats the last part; a question mark right behind the sign belongs to it. -/
def repeatPart? (state : State) (text : List Char) : Option (State × List Char) :=
  state.group.repeatLast?.map fun group ↦
    ({ state with group }, match text with
      | '?' :: rest => rest
      | rest => rest)

/-- Reads what starts with a character. -/
def readPart? (state : State) (c : Char) (rest : List Char) : Option (State × List Char) :=
  match c with
  | '(' => readGroup? state rest
  | ')' => state.leave?.map fun state ↦ (state, rest)
  | '|' => some ({ state with group := state.group.divide }, rest)
  | '[' => (readBracket? state.mode rest).map fun (depth, rest) ↦ (state.add depth, rest)
  | '?' => repeatPart? state rest
  | '*' => repeatPart? state rest
  | '+' => repeatPart? state rest
  | '\x7b' => none
  | '\\' => (readEscape? state.mode rest).map fun (_, rest) ↦ (state.add 0, rest)
  | '.' => if state.mode.unicode then some (state.add 0, rest) else none
  | _ => some (state.add 0, rest)

/-- Reads an expression to its end, and gives its depth. The first argument bounds the number of
characters. -/
def read? : Nat → State → List Char → Option Nat
  | bound, state, text =>
    match advance state.mode text with
    | [] => if state.outer.isEmpty then some state.group.total else none
    | c :: rest =>
      match bound, readPart? state c rest with
      | bound + 1, some (state, rest) => read? bound state rest
      | _, _ => none

end Regular

/-- Whether a text is a regular expression. -/
def isRegular (text : List Char) : Bool :=
  match Regular.read? text.length {} text with
  | some depth => depth ≤ Regular.depthLimit
  | none => false

end StepSequencer.Text
