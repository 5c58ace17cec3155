import StepSequencer.Text.Regular.Escape

/-!
# Classes in brackets

A class in brackets lists characters, ranges of characters, and classes, also named ones and such
in brackets again; two signs between lists make a set operation of them. `readBracket?` reads one
and measures how deep it is nested. In ASCII only, nothing in a class may be outside it, nor may
a class be the rest of another.
-/

set_option autoImplicit false
set_option relaxedAutoImplicit false

namespace StepSequencer.Text.Regular

/-! ### Depth -/

/-- Items side by side: how many there are, and the greatest depth of one. -/
structure Row where
  count : Nat := 0
  depth : Nat := 0
deriving DecidableEq, Repr

namespace Row

/-- One more item. -/
def add (row : Row) (depth : Nat) : Row :=
  ⟨row.count + 1, max row.depth depth⟩

/-- The depth of all items together: one item is not nested deeper by standing alone. -/
def total (row : Row) : Nat :=
  if 2 ≤ row.count then row.depth + 1 else row.depth

end Row

/-- An open bracket: the depth of what stands before a set operation, and the items since. -/
structure Bracket where
  left : Option Nat := none
  row : Row := {}
deriving DecidableEq, Repr

namespace Bracket

/-- One more item. -/
def add (bracket : Bracket) (depth : Nat) : Bracket :=
  { bracket with row := bracket.row.add depth }

/-- The depth of what has been read. -/
def total (bracket : Bracket) : Nat :=
  match bracket.left with
  | some left => max left bracket.row.total + 1
  | none => bracket.row.total

/-- Starts the other side of a set operation. -/
def operate (bracket : Bracket) : Bracket :=
  { left := some bracket.total }

end Bracket

/-! ### Items -/

/-- The named classes. -/
def classNames : List String :=
  ["alnum", "alpha", "ascii", "blank", "cntrl", "digit", "graph", "lower", "print", "punct",
    "space", "upper", "word", "xdigit"]

/-- Reads a named class behind its bracket, and says whether it is the rest of one. -/
def readNamed? : List Char → Option (Bool × List Char)
  | ':' :: rest =>
    let name := rest.takeWhile (· ≠ ':')
    let plain := name.dropWhile (· = '^')
    match rest.drop name.length with
    | ':' :: ']' :: after =>
      if name.length ≤ plain.length + 1 && classNames.contains (String.ofList plain) then
        some (plain.length < name.length, after)
      else none
    | _ => none
  | _ => none

/-- Reads a character or an escape. -/
def readMember? (mode : Mode) : List Char → Option (Atom × List Char)
  | [] => none
  | '\\' :: rest => readEscape? mode rest
  | c :: rest => some (.literal c, rest)

/-- Whether something may be in a class. -/
def isMember (mode : Mode) : Atom → Bool
  | .literal c => mode.unicode || c.toNat < 128
  | .kind => true
  | .place => false

/-- Whether two parts are the ends of a range. -/
def isRange (mode : Mode) : Atom → Atom → Bool
  | .literal first, .literal last =>
    first ≤ last && isMember mode (.literal first) && isMember mode (.literal last)
  | _, _ => false

/-- Reads an item or a range. A dash is an item itself before a closing bracket, and two dashes
are a set operation. -/
def readRange? (mode : Mode) (text : List Char) : Option (List Char) :=
  match readMember? mode text with
  | none => none
  | some (first, rest) =>
    let single := if isMember mode first then some (advance mode rest) else none
    match advance mode rest with
    | '-' :: after =>
      if peek? mode after = some ']' || peek? mode after = some '-' then single
      else match readMember? mode (advance mode after) with
        | some (last, rest) => if isRange mode first last then some rest else none
        | none => none
    | _ => single

/-! ### Brackets -/

/-- Reads the dashes at the start of a class, with the number of those already read. The first
argument bounds the number of characters. -/
def readDashes (mode : Mode) : Nat → Nat → List Char → Nat × List Char
  | bound + 1, count, '-' :: rest => readDashes mode bound (count + 1) (advance mode rest)
  | _, count, text => (count, text)

/-- Reads the start of a class: dashes, or else a closing bracket, are items there. -/
def openItems (mode : Mode) (text : List Char) : Bracket × List Char :=
  match readDashes mode text.length 0 text with
  | (0, ']' :: rest) => ({ row := ⟨1, 0⟩ }, advance mode rest)
  | (count, rest) => ({ row := ⟨count, 0⟩ }, rest)

/-- Opens a class behind its bracket. -/
def openBracket? (mode : Mode) (text : List Char) : Option (Bracket × List Char) :=
  match advance mode text with
  | '^' :: rest => if mode.unicode then some (openItems mode (advance mode rest)) else none
  | text => some (openItems mode text)

/-- Reads a class to its end, given the brackets that are open around it, and gives its depth and
what follows it. The first argument bounds the number of characters. -/
def readItems? (mode : Mode) :
    Nat → List Bracket → Bracket → List Char → Option (Nat × List Char)
  | 0, _, _, _ => none
  | bound + 1, outer, bracket, text =>
    match advance mode text with
    | [] => none
    | '[' :: rest =>
      match readNamed? rest with
      | some (negated, rest) =>
        if negated && !mode.unicode then none
        else readItems? mode bound outer (bracket.add 0) rest
      | none =>
        match openBracket? mode rest with
        | some (inner, rest) => readItems? mode bound (bracket :: outer) inner rest
        | none => none
    | ']' :: rest =>
      match outer with
      | [] => some (bracket.total + 1, rest)
      | next :: outer => readItems? mode bound outer (next.add (bracket.total + 1)) rest
    | '&' :: '&' :: rest => readItems? mode bound outer bracket.operate rest
    | '-' :: '-' :: rest => readItems? mode bound outer bracket.operate rest
    | '~' :: '~' :: rest => readItems? mode bound outer bracket.operate rest
    | text =>
      match readRange? mode text with
      | some rest => readItems? mode bound outer (bracket.add 0) rest
      | none => none

/-- Reads a class behind its first bracket, and gives its depth and what follows it. -/
def readBracket? (mode : Mode) (text : List Char) : Option (Nat × List Char) :=
  match openBracket? mode text with
  | some (bracket, rest) => readItems? mode (text.length + 1) [] bracket rest
  | none => none

end StepSequencer.Text.Regular
