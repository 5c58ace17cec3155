import StepSequencer.Text.Blank

/-!
# Parts of regular expressions

A regular expression is read in a `Mode`, which flags in it can change: blanks and comments may
stand between its parts, and it may be about all of Unicode or about ASCII only. `readEscape?`
reads what follows a backslash. Expressions are searched for in texts without looking back at
letters outside ASCII, so the bounds of words are known in ASCII only; and in ASCII only there is
no part that fits bytes beyond it.

The expressions come from between braces and hold no closing brace. What would need one cannot be
written: a number of repetitions, a character or a category in braces.
-/

set_option autoImplicit false
set_option relaxedAutoImplicit false

namespace StepSequencer.Text.Regular

/-! ### Modes -/

/-- How an expression is read: whether blanks and comments in it are left out, and whether it is
about all of Unicode. -/
structure Mode where
  spaced : Bool := false
  unicode : Bool := true
deriving DecidableEq, Repr

/-- Drops blanks and comments, which go from a number sign to the end of the line. The first
argument says whether a comment has started. -/
def skipGaps : Bool → List Char → List Char
  | _, [] => []
  | true, c :: rest => skipGaps (c ≠ '\n') rest
  | false, c :: rest =>
    if isBlank c then skipGaps false rest
    else if c = '#' then skipGaps true rest
    else c :: rest

/-- Drops what is left out before the next part. -/
def advance (mode : Mode) (text : List Char) : List Char :=
  if mode.spaced then skipGaps false text else text

/-- The next character that counts in a class, if there is one. -/
def peek? (mode : Mode) (text : List Char) : Option Char :=
  if mode.spaced then
    match text.dropWhile isBlank with
    | '#' :: rest => (rest.dropWhile isBlank).head?
    | rest => rest.head?
  else text.head?

/-! ### Escapes -/

/-- A part of an expression: a character, a class of characters, or a place. -/
inductive Atom where
  | literal (c : Char)
  | kind
  | place
deriving DecidableEq, Repr

/-- The value of a hexadecimal digit. -/
def hexValue? (c : Char) : Option Nat :=
  if c.isDigit then some (c.toNat - 48)
  else if 'a' ≤ c ∧ c ≤ 'f' then some (c.toNat - 87)
  else if 'A' ≤ c ∧ c ≤ 'F' then some (c.toNat - 55)
  else none

/-- Reads a number of hexadecimal digits, behind those already read. -/
def readHex? (mode : Mode) : Nat → Nat → List Char → Option (Nat × List Char)
  | 0, code, text => some (code, text)
  | count + 1, code, text =>
    match advance mode text with
    | [] => none
    | c :: rest => (hexValue? c).bind fun digit ↦ readHex? mode count (16 * code + digit) rest

/-- Reads a character by its code of a number of digits, within a limit. -/
def readCode? (mode : Mode) (count limit : Nat) (text : List Char) : Option (Atom × List Char) :=
  (readHex? mode count 0 text).bind fun (code, rest) ↦
    if code.isValidChar ∧ code ≤ limit then some (.literal (Char.ofNat code), rest) else none

/-- Reads the letter of a category of Unicode. -/
def readCategory? (mode : Mode) (text : List Char) : Option (Atom × List Char) :=
  match advance mode text with
  | [] => none
  | c :: rest =>
    if mode.unicode && "clmnpsz".toList.contains c.toLower then some (.kind, rest) else none

/-- Whether a backslash before a character makes it stand for itself. -/
def isEscapable (c : Char) : Bool :=
  c.toNat < 128 && !c.isAlphanum && c ≠ '<' && c ≠ '>'

/-- Reads what follows a backslash. -/
def readEscape? (mode : Mode) : List Char → Option (Atom × List Char)
  | [] => none
  | c :: rest =>
    if isEscapable c then some (.literal c, rest)
    else match c with
      | 'x' => readCode? mode 2 (if mode.unicode then 0xff else 0x7f) rest
      | 'u' => readCode? mode 4 0x10ffff rest
      | 'U' => readCode? mode 8 0x10ffff rest
      | 'a' => some (.literal '\x07', rest)
      | 'f' => some (.literal '\x0c', rest)
      | 't' => some (.literal '\t', rest)
      | 'n' => some (.literal '\n', rest)
      | 'r' => some (.literal '\r', rest)
      | 'v' => some (.literal '\x0b', rest)
      | 'A' => some (.place, rest)
      | 'z' => some (.place, rest)
      | _ =>
        if c = 'p' || c = 'P' then readCategory? mode rest
        else if c = 'd' || c = 's' || c = 'w' then some (.kind, rest)
        else if c = 'D' || c = 'S' || c = 'W' then
          if mode.unicode then some (.kind, rest) else none
        else if c = 'b' || c = 'B' || c = '<' || c = '>' then
          if mode.unicode then none else some (.place, rest)
        else none

end StepSequencer.Text.Regular
