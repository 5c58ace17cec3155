import StepSequencer.Json.Reader
import StepSequencer.Json.Skip
import StepSequencer.Song.Json
import StepSequencer.Tone.Table

/-!
# Note tables as JSON

`NoteTable.toJson` writes a table: percussion codes under their sounds in increasing order, then
the tunings. `NoteTable.ofJson` reads one straight from the text, so every fault has a place,
and the first one in the text counts. A record is an object or an array of its fields. The table
has no other fields and all of them may be missing; a tone needs all of its fields, and others
are passed over. A fault about a record as a whole is placed behind its closing bracket when
that follows.
-/

set_option autoImplicit false
set_option relaxedAutoImplicit false

namespace StepSequencer

open Json (Value Cursor Fault Reading Found Mismatch)

/-! ### Writing -/

/-- A tone as an object. -/
def Tone.encode (tone : Tone) : Value :=
  .object [("sound", byteValue tone.sound), ("note", .string tone.note),
    ("octave", byteValue tone.octave), ("code", byteValue tone.code)]

/-- Percussion codes as an object with the sounds as keys. -/
def Percussion.encode (percussion : Percussion) : Value :=
  .object (percussion.entries.map fun entry ↦
    (Json.decimal entry.1.toNat, byteValue entry.2))

/-- A note table as an object. -/
def NoteTable.encodeTable (table : NoteTable) : Value :=
  .object [("percussion", table.percussion.encode),
    ("tunings", .array (table.tunings.map fun tones ↦ .array (tones.map Tone.encode)))]

/-- The JSON text of a note table, without blanks. -/
def NoteTable.toJson (table : NoteTable) : String :=
  table.encodeTable.compact

/-! ### Values of a wanted type -/

/-- The fault for a value of another type than wanted: the value is read if it is short, and
its own fault counts first. -/
def unwanted (wanted : String) (c : Cursor) : Fault :=
  let misfit (found : Found) (c : Cursor) : Fault := c.here (.mismatch (.wrongType found wanted))
  match c.rest with
  | [] => c.ahead .expectedValue
  | d :: _ =>
    if d = '[' then misfit .sequence c
    else if d = '{' then misfit .map c
    else
      match Json.readValue 0 c with
      | .error fault => fault
      | .ok (value, c) => misfit value.found c

/-- Reads a byte, or names the fault. -/
def readByte (c : Cursor) : Except Fault (UInt8 × Cursor) := do
  let c := c.skipGaps
  match c.rest with
  | [] => throw (c.ahead .endInValue)
  | d :: _ =>
    if d = '-' ∨ d.isDigit then
      let (number, c) ← Json.readNumeral (d = '-') (if d = '-' then c.drop 1 else c)
      match number with
      | .integer n =>
        if 0 ≤ n ∧ n ≤ 255 then return (UInt8.ofNat n.toNat, c)
        else throw (c.here (.mismatch (.outOfRange n "u8")))
      | .float x => throw (c.here (.mismatch (.wrongType (.float x) "u8")))
    else throw (unwanted "u8" c)

/-- Reads a text, or names the fault. -/
def readText (c : Cursor) : Reading String :=
  let c := c.skipGaps
  match c.rest with
  | [] => .error (c.ahead .endInValue)
  | d :: _ => if d = '"' then Json.readString (c.drop 1) else .error (unwanted "a string" c)

/-- Reads a list, or names the fault. -/
def readList {α : Type} (item : Cursor → Reading α) (c : Cursor) :
    Except Fault (List α × Cursor) := do
  let c := c.skipGaps
  match c.rest with
  | [] => throw (c.ahead .endInValue)
  | d :: _ =>
    if d = '[' then
      let (items, c) ← Json.readElements (Json.pushElement item) [] (c.drop 1)
      return (items.reverse, c)
    else throw (unwanted "a sequence" c)

/-- Reads a record: its members with a reader for objects, its fields with one for arrays. Both
start after the opening bracket. -/
def readRecord {α : Type} (name : String) (object array : Cursor → Reading α) (c : Cursor) :
    Reading α :=
  let c := c.skipGaps
  match c.rest with
  | [] => .error (c.ahead .endInValue)
  | d :: _ =>
    if d = '{' then object (c.drop 1)
    else if d = '[' then array (c.drop 1)
    else .error (unwanted ("struct " ++ name) c)

/-! ### Faults of a record -/

/-- Moves over blanks and a closing bracket, if it follows. -/
def overBracket (bracket : Char) (c : Cursor) : Cursor :=
  let c := c.skipGaps
  match c.rest with
  | [] => c
  | d :: _ => if d = bracket then c.drop 1 else c

/-- A fault of an object as a whole. -/
def objectFault (m : Mismatch) (c : Cursor) : Fault :=
  (overBracket '}' c).here (.mismatch m)

/-- A fault of an array as a whole. -/
def arrayFault (m : Mismatch) (c : Cursor) : Fault :=
  (overBracket ']' c).here (.mismatch m)

/-- Moves over the closing bracket of an array whose fields have all been read. -/
def closeArray (c : Cursor) : Except Fault Cursor :=
  let c := c.skipGaps
  match c.rest with
  | [] => .error (c.ahead .endInList)
  | d :: _ =>
    if d = ']' then .ok (c.drop 1)
    else if d = ',' then
      let c := (c.drop 1).skipGaps
      .error (c.ahead (if c.rest.head? = some ']' then .trailingComma else .trailingCharacters))
    else .error (c.ahead .trailingCharacters)

/-- Reads a field of an array of fields; there is none where the array ends. -/
def readField {α : Type} (first : Bool) (item : Cursor → Reading α) (c : Cursor) :
    Except Fault (Option α × Cursor) := do
  let (more, c) ← Json.nextElement first c
  if more then
    let (a, c) ← item c
    return (some a, c)
  else return (none, c)

/-- Reads the colon and the value of a field that has not been given before. -/
def readNewField {α : Type} (name : String) (before : Option α) (item : Cursor → Reading α)
    (c : Cursor) : Except Fault (Option α × Cursor) := do
  if before.isSome then throw (objectFault (.duplicateField name) c)
  let c ← Json.readColon c
  let (a, c) ← item c
  return (some a, c)

/-! ### Tones -/

namespace Tone

/-- The fields of a tone read so far. -/
structure Draft where
  sound : Option UInt8 := none
  note : Option String := none
  octave : Option UInt8 := none
  code : Option UInt8 := none

/-- Reads one member of a tone; others than its fields are passed over. -/
def Draft.read (draft : Draft) (c : Cursor) : Except Fault (Draft × Cursor) := do
  let (key, c) ← Json.readString (c.drop 1)
  match key with
  | "sound" =>
    let (sound, c) ← readNewField key draft.sound readByte c
    return ({ draft with sound := sound }, c)
  | "note" =>
    let (note, c) ← readNewField key draft.note readText c
    return ({ draft with note := note }, c)
  | "octave" =>
    let (octave, c) ← readNewField key draft.octave readByte c
    return ({ draft with octave := octave }, c)
  | "code" =>
    let (code, c) ← readNewField key draft.code readByte c
    return ({ draft with code := code }, c)
  | _ =>
    let c ← Json.readColon c
    let c ← Json.skipValue c
    return (draft, c)

/-- The name of the first field that is missing. -/
def Draft.missing (draft : Draft) : String :=
  if draft.sound.isNone then "sound"
  else if draft.note.isNone then "note"
  else if draft.octave.isNone then "octave"
  else "code"

/-- Reads a tone from the members of an object. -/
def readObject (c : Cursor) : Except Fault (Tone × Cursor) := do
  let (draft, c) ← Json.readMembers Draft.read {} c
  match draft with
  | ⟨some sound, some note, some octave, some code⟩ => return (⟨sound, note, octave, code⟩, c)
  | draft => throw (c.here (.mismatch (.missingField draft.missing)))

/-- The fault of an array with too few fields. -/
def shortArray (found : Nat) (c : Cursor) : Fault :=
  arrayFault (.wrongLength found "struct ToneEntry with 4 elements") c

/-- A field that has to be there. -/
def present {α : Type} (position : Nat) (field : Option α × Cursor) : Reading α :=
  match field with
  | (some a, c) => .ok (a, c)
  | (none, c) => .error (shortArray position c)

/-- Reads a tone from an array of its fields. -/
def readArray (c : Cursor) : Except Fault (Tone × Cursor) := do
  let (sound, c) ← present 0 (← readField true readByte c)
  let (note, c) ← present 1 (← readField false readText c)
  let (octave, c) ← present 2 (← readField false readByte c)
  let (code, c) ← present 3 (← readField false readByte c)
  let c ← closeArray c
  return (⟨sound, note, octave, code⟩, c)

/-- Reads a tone. -/
def read (c : Cursor) : Reading Tone :=
  readRecord "ToneEntry" readObject readArray c

end Tone

/-! ### Percussion -/

namespace Percussion

/-- Reads a sound as a key, from its opening quote on. -/
def readKey (c : Cursor) : Except Fault (UInt8 × Cursor) := do
  let c := c.drop 1
  match c.rest with
  | [] => throw (c.here .expectedNumericKey)
  | d :: _ =>
    if d = '-' ∨ d.isDigit then
      let (sound, c) ← readByte c
      match c.rest with
      | '"' :: _ => return (sound, c.drop 1)
      | _ => throw (c.ahead .expectedQuote)
    else throw (c.here .expectedNumericKey)

/-- Reads one percussion code. -/
def readMember (percussion : Percussion) (c : Cursor) :
    Except Fault (Percussion × Cursor) := do
  let (sound, c) ← readKey c
  let c ← Json.readColon c
  let (code, c) ← readByte c
  return (percussion.insert sound code, c)

/-- Reads percussion codes. -/
def read (c : Cursor) : Reading Percussion :=
  let c := c.skipGaps
  match c.rest with
  | [] => .error (c.ahead .endInValue)
  | d :: _ =>
    if d = '{' then Json.readMembers readMember {} (c.drop 1)
    else .error (unwanted "a map" c)

end Percussion

/-! ### Tables -/

namespace NoteTable

/-- The fields of a note table read so far. -/
structure Draft where
  percussion : Option Percussion := none
  tunings : Option (List (List Tone)) := none

/-- The table of the fields read; a field that is missing is empty. -/
def Draft.finish (draft : Draft) : NoteTable :=
  ⟨draft.percussion.getD {}, draft.tunings.getD []⟩

/-- Reads the tunings. -/
def readTunings (c : Cursor) : Reading (List (List Tone)) :=
  readList (readList Tone.read) c

/-- Reads one member of a note table. -/
def Draft.read (draft : Draft) (c : Cursor) : Except Fault (Draft × Cursor) := do
  let (key, c) ← Json.readString (c.drop 1)
  match key with
  | "percussion" =>
    let (percussion, c) ← readNewField key draft.percussion Percussion.read c
    return ({ draft with percussion := percussion }, c)
  | "tunings" =>
    let (tunings, c) ← readNewField key draft.tunings readTunings c
    return ({ draft with tunings := tunings }, c)
  | _ => throw (objectFault (.unknownField key ["percussion", "tunings"]) c)

/-- Reads a note table from the members of an object. -/
def readObject (c : Cursor) : Except Fault (NoteTable × Cursor) := do
  let (draft, c) ← Json.readMembers Draft.read {} c
  return (draft.finish, c)

/-- Reads a note table from an array of its fields. -/
def readArray (c : Cursor) : Except Fault (NoteTable × Cursor) := do
  let (percussion, c) ← readField true Percussion.read c
  let (tunings, c) ← if percussion.isSome then readField false readTunings c else pure (none, c)
  let c ← closeArray c
  return (Draft.finish ⟨percussion, tunings⟩, c)

/-- Reads a note table from a JSON text. -/
def ofJson (text : String) : Except Fault NoteTable := do
  let (table, c) ← readRecord "NoteTable" readObject readArray (Cursor.ofString text)
  Json.readEnd c
  return table

end NoteTable

end StepSequencer
