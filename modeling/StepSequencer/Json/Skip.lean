import StepSequencer.Json.Listing

/-!
# Passing over a value

`skipValue` moves over a value whose content does not matter. It checks less than a reader does:
surrogates need no partner, numbers have no range, and nesting has no limit, because the open
brackets are kept in a list.
-/

set_option autoImplicit false
set_option relaxedAutoImplicit false

namespace StepSequencer.Json

/-- An array or an object that is open. -/
inductive Bracket where
  | list
  | object
deriving DecidableEq, Repr

/-- Moves over an escape, after its backslash. -/
def skipEscape (c : Cursor) : Except Fault Cursor :=
  match c.rest with
  | [] => .error (c.here .endInString)
  | letter :: _ =>
    if (escapeLetter? letter).isSome then .ok (c.drop 1)
    else if letter = 'u' then (readUnit (c.drop 1)).map Prod.snd
    else .error (c.past .invalidEscape)

/-- Moves over one character of a string, or its closing quote. -/
def skipStringTurn (_first : Bool) (_state : Unit) (c : Cursor) : Reading (Turn Unit) :=
  match c.rest with
  | [] => .error (c.here .endInString)
  | d :: rest =>
    if d = '"' then .ok (.done (), c.drop 1)
    else if d = '\\' then
      match skipEscape (c.drop 1) with
      | .error fault => .error fault
      | .ok c => .ok (.more (), c)
    else if d.toNat < 0x20 then .error (c.here .controlCharacter)
    else .ok (.more (), ⟨rest, c.offset + d.utf8Size⟩)

/-- Moves over a string, after its opening quote. -/
def skipString (c : Cursor) : Except Fault Cursor :=
  (readAll skipStringTurn () c).map Prod.snd

/-- Moves over digits. -/
def skipDigits (c : Cursor) : Cursor :=
  c.drop (c.rest.takeWhile Char.isDigit).length

/-- Whether a digit follows. -/
def Cursor.atDigit (c : Cursor) : Bool :=
  match c.rest with
  | [] => false
  | d :: _ => d.isDigit

/-- The fault for a character other than a digit, which is taken if there is one. -/
def notDigit (c : Cursor) : Fault :=
  if c.rest.isEmpty then c.here .invalidNumber else c.past .invalidNumber

/-- Moves over an exponent, if one follows. -/
def skipExponent (c : Cursor) : Except Fault Cursor :=
  match c.rest with
  | [] => .ok c
  | d :: _ =>
    if d = 'e' ∨ d = 'E' then
      let c := c.drop 1
      let c := match c.rest with
        | [] => c
        | e :: _ => if e = '+' ∨ e = '-' then c.drop 1 else c
      if c.atDigit then .ok (skipDigits c) else .error (notDigit c)
    else .ok c

/-- Moves over a fraction and an exponent, if they follow. -/
def skipFraction (c : Cursor) : Except Fault Cursor :=
  match c.rest with
  | '.' :: _ =>
    let c := c.drop 1
    if c.atDigit then skipExponent (skipDigits c) else .error (c.ahead .invalidNumber)
  | _ => skipExponent c

/-- Moves over a numeral, after its sign. -/
def skipNumeral (c : Cursor) : Except Fault Cursor :=
  match c.rest with
  | '0' :: _ =>
    let c := c.drop 1
    if c.atDigit then .error (c.ahead .invalidNumber) else skipFraction c
  | _ => if c.atDigit then skipFraction (skipDigits c) else .error (notDigit c)

/-- Moves over a key and its colon. -/
def skipKey (c : Cursor) : Except Fault Cursor := do
  let c := c.skipGaps
  match c.rest with
  | [] => throw (c.ahead .endInObject)
  | d :: _ =>
    if d = '"' then
      let c ← skipString (c.drop 1)
      readColon c
    else throw (c.ahead .keyNotString)

/-- Moves over a value that is no array and no object, or over the bracket that opens one. -/
def skipLeaf (c : Cursor) : Reading (Option Bracket) :=
  match c.rest with
  | [] => .error (c.ahead .endInValue)
  | d :: _ =>
    if d = 'n' then (readWord ['u', 'l', 'l'] (c.drop 1)).map fun c ↦ (none, c)
    else if d = 't' then (readWord ['r', 'u', 'e'] (c.drop 1)).map fun c ↦ (none, c)
    else if d = 'f' then (readWord ['a', 'l', 's', 'e'] (c.drop 1)).map fun c ↦ (none, c)
    else if d = '-' then (skipNumeral (c.drop 1)).map fun c ↦ (none, c)
    else if d.isDigit then (skipNumeral c).map fun c ↦ (none, c)
    else if d = '"' then (skipString (c.drop 1)).map fun c ↦ (none, c)
    else if d = '[' then .ok (some .list, c.drop 1)
    else if d = '{' then .ok (some .object, c.drop 1)
    else .error (c.ahead .expectedValue)

/-- Closes brackets until a comma or a first item follows; the open brackets that stay are
returned, the innermost first. The first argument bounds the number of brackets. -/
def closeBrackets : Nat → Bool → List Bracket → Cursor → Reading (List Bracket)
  | 0, _, opened, c => .ok (opened, c)
  | _ + 1, _, [], c => .ok ([], c)
  | bound + 1, afterItem, bracket :: outer, c =>
    let c := c.skipGaps
    match c.rest with
    | [] => .error (c.ahead (if bracket = .list then .endInList else .endInObject))
    | d :: _ =>
      if d = ',' ∧ afterItem then .ok (bracket :: outer, c.drop 1)
      else if (d = ']' ∧ bracket = .list) ∨ (d = '}' ∧ bracket = .object) then
        closeBrackets bound true outer (c.drop 1)
      else if afterItem then
        .error (c.ahead (if bracket = .list then .expectedListEnd else .expectedObjectEnd))
      else .ok (bracket :: outer, c)

/-- Moves over one leaf or opening bracket and all that closes behind it, up to the next item. -/
def skipTurn (_first : Bool) (opened : List Bracket) (c : Cursor) :
    Except Fault (Turn (List Bracket) × Cursor) := do
  let (leaf, c) ← skipLeaf c.skipGaps
  let (opened, c) ← match leaf with
    | none => closeBrackets (opened.length + 1) true opened c
    | some bracket => closeBrackets (opened.length + 2) false (bracket :: opened) c
  match opened with
  | [] => return (.done [], c)
  | .list :: _ => return (.more opened, c)
  | .object :: _ =>
    let c ← skipKey c
    return (.more opened, c)

/-- Moves over a value. -/
def skipValue (c : Cursor) : Except Fault Cursor :=
  (readAll skipTurn [] c).map Prod.snd

end StepSequencer.Json
