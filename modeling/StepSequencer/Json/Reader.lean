import StepSequencer.Json.Listing
import StepSequencer.Json.Numeral

/-!
# Reading a JSON document

`parse` reads one value with blanks around it. Arrays and objects nest up to 127 deep. The
members of an object are kept in increasing order of the key, and of several members with the
same key the last one counts.
-/

set_option autoImplicit false
set_option relaxedAutoImplicit false

namespace StepSequencer.Json

/-- The number of arrays and objects that may be open at once. -/
def maxDepth : Nat := 127

/-- Reads one element and adds it to those before it, the last one first. -/
def pushElement {α : Type} (item : Cursor → Reading α) (state : List α) (c : Cursor) :
    Reading (List α) :=
  match item c with
  | .error fault => .error fault
  | .ok (a, c) => .ok (a :: state, c)

/-- Reads a key, a colon and a value, and adds the member to those before it. -/
def putMember {α : Type} (item : Cursor → Reading α) (state : List (String × α)) (c : Cursor) :
    Except Fault (List (String × α) × Cursor) := do
  let (key, c) ← readString (c.drop 1)
  let c ← readColon c
  let (a, c) ← item c
  return (insertMember key a state, c)

/-- Reads a value inside which arrays and objects may nest to a depth. -/
def readValue : Nat → Cursor → Except Fault (Value × Cursor)
  | depth, c =>
    let c := c.skipGaps
    match c.rest with
    | [] => .error (c.ahead .endInValue)
    | d :: _ =>
      if d = 'n' then do
        let c ← readWord ['u', 'l', 'l'] (c.drop 1)
        return (.null, c)
      else if d = 't' then do
        let c ← readWord ['r', 'u', 'e'] (c.drop 1)
        return (.bool true, c)
      else if d = 'f' then do
        let c ← readWord ['a', 'l', 's', 'e'] (c.drop 1)
        return (.bool false, c)
      else if d = '-' then do
        let (n, c) ← readNumeral true (c.drop 1)
        return (.number n, c)
      else if d.isDigit then do
        let (n, c) ← readNumeral false c
        return (.number n, c)
      else if d = '"' then do
        let (s, c) ← readString (c.drop 1)
        return (.string s, c)
      else if d = '[' then
        match depth with
        | 0 => .error (c.ahead .tooDeep)
        | inner + 1 => do
          let (elements, c) ← readElements (pushElement (readValue inner)) [] (c.drop 1)
          return (.array elements.reverse, c)
      else if d = '{' then
        match depth with
        | 0 => .error (c.ahead .tooDeep)
        | inner + 1 => do
          let (members, c) ← readMembers (putMember (readValue inner)) [] (c.drop 1)
          return (.object members, c)
      else .error (c.ahead .expectedValue)

/-- Checks that only blanks are left. -/
def readEnd (c : Cursor) : Except Fault Unit :=
  let c := c.skipGaps
  if c.rest.isEmpty then .ok () else .error (c.ahead .trailingCharacters)

/-- The value of a JSON document. -/
def parse (text : String) : Except Fault Value := do
  let (value, c) ← readValue maxDepth (Cursor.ofString text)
  readEnd c
  return value

end StepSequencer.Json
