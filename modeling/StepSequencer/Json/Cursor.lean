import StepSequencer.Json.Fault

/-!
# A place in the text being read

A `Cursor` is the text that is left and the number of bytes already read. A fault is reported
either `here`, at the bytes already read, or `ahead`, past the byte that was looked at and not
taken, which is the same place at the end of the text.

`readAll` repeats a reader of items until it signals the end. Each turn but the last takes a
character at least, so the bound on the number of turns, one more than the characters that are
left, is never reached.
-/

set_option autoImplicit false
set_option relaxedAutoImplicit false

namespace StepSequencer.Json

/-- The text that is left, and the number of bytes before it. -/
structure Cursor where
  rest : List Char
  offset : Nat
deriving DecidableEq, Repr

namespace Cursor

/-- The cursor at the start of a text. -/
def ofString (text : String) : Cursor :=
  ⟨text.toList, 0⟩

/-- A fault reported at the bytes already read. -/
def here (c : Cursor) (cause : Cause) : Fault :=
  ⟨cause, c.offset⟩

/-- A fault reported past the next byte, or at the end of the text. -/
def ahead (c : Cursor) (cause : Cause) : Fault :=
  ⟨cause, if c.rest.isEmpty then c.offset else c.offset + 1⟩

/-- A fault reported after the next byte has been taken. -/
def past (c : Cursor) (cause : Cause) : Fault :=
  ⟨cause, c.offset + 1⟩

/-- Moves over a number of characters of one byte each. -/
def drop (n : Nat) (c : Cursor) : Cursor :=
  ⟨c.rest.drop n, c.offset + n⟩

/-- Whether a character may stand between the parts of a document. -/
def isGap (c : Char) : Bool :=
  c = ' ' || c = '\n' || c = '\t' || c = '\r'

/-- Moves over blanks. -/
def skipGaps (c : Cursor) : Cursor :=
  c.drop (c.rest.takeWhile isGap).length

end Cursor

/-- The outcome of reading something at a cursor. -/
abbrev Reading (α : Type) : Type :=
  Except Fault (α × Cursor)

/-- What a reader of items says after one turn: there are no more, or there may be. -/
inductive Turn (σ : Type) where
  | done (state : σ)
  | more (state : σ)

/-- Repeats a reader until it signals the end. The reader is told whether this is its first
turn, and carries a state along. -/
def readMany {σ : Type} (turn : Bool → σ → Cursor → Reading (Turn σ)) :
    Nat → Bool → σ → Cursor → Reading σ
  | 0, _, _, c => .error (c.here .endInValue)
  | bound + 1, first, state, c =>
    match turn first state c with
    | .error fault => .error fault
    | .ok (.done state, c) => .ok (state, c)
    | .ok (.more state, c) => readMany turn bound false state c

/-- Repeats a reader from a first state until it signals the end. -/
def readAll {σ : Type} (turn : Bool → σ → Cursor → Reading (Turn σ)) (state : σ) (c : Cursor) :
    Reading σ :=
  readMany turn (c.rest.length + 1) true state c

end StepSequencer.Json
