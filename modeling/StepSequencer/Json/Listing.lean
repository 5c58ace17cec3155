import StepSequencer.Json.Literal

/-!
# Elements and members

What stands between the brackets of an array or an object: nothing, or items with a comma
between neighbours. `readElementTurn` and `readMemberTurn` read one item with the comma before
it, or the closing bracket, and name the fault where neither stands. The reader of a member gets
the key, and reads the colon and the value itself.
-/

set_option autoImplicit false
set_option relaxedAutoImplicit false

namespace StepSequencer.Json

/-- Moves to the next element of an array, over the comma before it unless it is the first.
There is none when the closing bracket follows, which is left where it is. -/
def nextElement (first : Bool) (c : Cursor) : Reading Bool :=
  let c := c.skipGaps
  match c.rest with
  | [] => .error (c.ahead .endInList)
  | d :: _ =>
    if d = ']' then .ok (false, c)
    else if first then .ok (true, c)
    else if d = ',' then
      let c := (c.drop 1).skipGaps
      match c.rest with
      | [] => .error (c.ahead .endInValue)
      | e :: _ => if e = ']' then .error (c.ahead .trailingComma) else .ok (true, c)
    else .error (c.ahead .expectedListEnd)

/-- Moves to the opening quote of the next key of an object, over the comma before it unless it
is the first. There is none when the closing bracket follows, which is left where it is. -/
def nextKey (first : Bool) (c : Cursor) : Reading Bool :=
  let c := c.skipGaps
  match c.rest with
  | [] => .error (c.ahead .endInObject)
  | d :: _ =>
    if d = '}' then .ok (false, c)
    else if first then
      if d = '"' then .ok (true, c) else .error (c.ahead .keyNotString)
    else if d = ',' then
      let c := (c.drop 1).skipGaps
      match c.rest with
      | [] => .error (c.ahead .endInValue)
      | e :: _ =>
        if e = '"' then .ok (true, c)
        else if e = '}' then .error (c.ahead .trailingComma)
        else .error (c.ahead .keyNotString)
    else .error (c.ahead .expectedObjectEnd)

/-- Moves over the colon between a key and its value. -/
def readColon (c : Cursor) : Except Fault Cursor :=
  let c := c.skipGaps
  match c.rest with
  | [] => .error (c.ahead .endInObject)
  | d :: _ => if d = ':' then .ok (c.drop 1) else .error (c.ahead .expectedColon)

/-- Reads one element with the comma before it, or the closing bracket. -/
def readElementTurn {σ : Type} (element : σ → Cursor → Reading σ) (first : Bool) (state : σ)
    (c : Cursor) : Reading (Turn σ) :=
  match nextElement first c with
  | .error fault => .error fault
  | .ok (false, c) => .ok (.done state, c.drop 1)
  | .ok (true, c) =>
    match element state c with
    | .error fault => .error fault
    | .ok (state, c) => .ok (.more state, c)

/-- Reads one member with the comma before it, or the closing bracket. The reader of the member
starts at the opening quote of the key. -/
def readMemberTurn {σ : Type} (member : σ → Cursor → Reading σ) (first : Bool) (state : σ)
    (c : Cursor) : Reading (Turn σ) :=
  match nextKey first c with
  | .error fault => .error fault
  | .ok (false, c) => .ok (.done state, c.drop 1)
  | .ok (true, c) =>
    match member state c with
    | .error fault => .error fault
    | .ok (state, c) => .ok (.more state, c)

/-- Reads the elements of an array, after its opening bracket. -/
def readElements {σ : Type} (element : σ → Cursor → Reading σ) (state : σ) (c : Cursor) :
    Reading σ :=
  readAll (readElementTurn element) state c

/-- Reads the members of an object, after its opening bracket. -/
def readMembers {σ : Type} (member : σ → Cursor → Reading σ) (state : σ) (c : Cursor) :
    Reading σ :=
  readAll (readMemberTurn member) state c

end StepSequencer.Json
