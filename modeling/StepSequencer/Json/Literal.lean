import StepSequencer.Json.Cursor

/-!
# Strings and words

Inside a string every character from the space on stands for itself, apart from the quote and
the backslash. A backslash starts an escape: a letter, or four hexadecimal digits that give a
UTF-16 unit. A unit of the first half of a surrogate pair needs one of the second half behind
it. `readWord` reads the rest of `null`, `true` and `false`.
-/

set_option autoImplicit false
set_option relaxedAutoImplicit false

namespace StepSequencer.Json

/-- The value of a hexadecimal digit. -/
def hexValue? (c : Char) : Option Nat :=
  if '0' ≤ c ∧ c ≤ '9' then some (c.toNat - '0'.toNat)
  else if 'a' ≤ c ∧ c ≤ 'f' then some (c.toNat - 'a'.toNat + 10)
  else if 'A' ≤ c ∧ c ≤ 'F' then some (c.toNat - 'A'.toNat + 10)
  else none

/-- The value of four hexadecimal digits. -/
def hexUnit? (a b c d : Char) : Option Nat := do
  let w ← hexValue? a
  let x ← hexValue? b
  let y ← hexValue? c
  let z ← hexValue? d
  return ((w * 16 + x) * 16 + y) * 16 + z

/-- The number of bytes of some characters. -/
def byteCount (chars : List Char) : Nat :=
  chars.foldl (fun count c ↦ count + c.utf8Size) 0

/-- The fault for four bytes that are no hexadecimal digits, or for fewer than four bytes. -/
def badUnit (c : Cursor) : Fault :=
  let left := byteCount (c.rest.take 4)
  if left < 4 then ⟨.endInString, c.offset + left⟩ else ⟨.invalidEscape, c.offset + 4⟩

/-- Reads four hexadecimal digits. -/
def readUnit (c : Cursor) : Reading Nat :=
  match c.rest with
  | w :: x :: y :: z :: _ =>
    match hexUnit? w x y z with
    | some unit => .ok (unit, c.drop 4)
    | none => .error (badUnit c)
  | _ => .error (badUnit c)

/-- Whether a unit is the second half of a surrogate pair. -/
def isLowSurrogate (unit : Nat) : Bool :=
  0xDC00 ≤ unit && unit ≤ 0xDFFF

/-- Whether a unit is the first half of a surrogate pair. -/
def isHighSurrogate (unit : Nat) : Bool :=
  0xD800 ≤ unit && unit ≤ 0xDBFF

/-- Moves over one given character of a surrogate pair's second escape. -/
def expectInPair (expected : Char) (c : Cursor) : Except Fault Cursor :=
  match c.rest with
  | [] => .error (c.here .endInString)
  | d :: _ => if d = expected then .ok (c.drop 1) else .error (c.past .brokenSurrogatePair)

/-- Reads the second half of a surrogate pair. -/
def readLowSurrogate (high : Nat) (c : Cursor) : Except Fault (Char × Cursor) := do
  let c ← expectInPair '\\' c
  let c ← expectInPair 'u' c
  let (low, c) ← readUnit c
  if isLowSurrogate low then
    return (Char.ofNat (0x10000 + (high - 0xD800) * 0x400 + (low - 0xDC00)), c)
  else throw (c.here .loneSurrogate)

/-- Reads the character of an escape with hexadecimal digits, after its letter. -/
def readUnicode (c : Cursor) : Except Fault (Char × Cursor) := do
  let (unit, c) ← readUnit c
  if isLowSurrogate unit then throw (c.here .loneSurrogate)
  else if isHighSurrogate unit then readLowSurrogate unit c
  else return (Char.ofNat unit, c)

/-- The characters of the escapes with one letter. -/
def escapeLetter? (letter : Char) : Option Char :=
  if letter = '"' then some '"'
  else if letter = '\\' then some '\\'
  else if letter = '/' then some '/'
  else if letter = 'b' then some '\x08'
  else if letter = 'f' then some '\x0c'
  else if letter = 'n' then some '\n'
  else if letter = 'r' then some '\r'
  else if letter = 't' then some '\t'
  else none

/-- Reads the character of an escape, after its backslash. -/
def readEscape (c : Cursor) : Reading Char :=
  match c.rest with
  | [] => .error (c.here .endInString)
  | letter :: _ =>
    match escapeLetter? letter with
    | some char => .ok (char, c.drop 1)
    | none =>
      if letter = 'u' then readUnicode (c.drop 1) else .error (c.past .invalidEscape)

/-- Reads one character of a string, or its closing quote; the state holds the characters read
so far, the last one first. -/
def readStringTurn (_first : Bool) (chars : List Char) (c : Cursor) :
    Reading (Turn (List Char)) :=
  match c.rest with
  | [] => .error (c.here .endInString)
  | d :: rest =>
    if d = '"' then .ok (.done chars, c.drop 1)
    else if d = '\\' then
      match readEscape (c.drop 1) with
      | .error fault => .error fault
      | .ok (char, c) => .ok (.more (char :: chars), c)
    else if d.toNat < 0x20 then .error (c.past .controlCharacter)
    else .ok (.more (d :: chars), ⟨rest, c.offset + d.utf8Size⟩)

/-- Reads a string, after its opening quote. -/
def readString (c : Cursor) : Reading String :=
  match readAll readStringTurn [] c with
  | .error fault => .error fault
  | .ok (chars, c) => .ok (String.ofList chars.reverse, c)

/-- Reads the letters of a word. -/
def readWord : List Char → Cursor → Except Fault Cursor
  | [], c => .ok c
  | letter :: rest, c =>
    match c.rest with
    | [] => .error (c.here .endInValue)
    | d :: _ => if d = letter then readWord rest (c.drop 1) else .error (c.past .expectedWord)

end StepSequencer.Json
