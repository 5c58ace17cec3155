import StepSequencer.Song.Finding
import StepSequencer.Song.Validation
import StepSequencer.Text.Quoted

/-!
# Why a song was not assembled

`AssemblyError` lists the causes: the song does not pass, a pattern cannot be spread over the
slots, the encoder gave the code that is reserved for rests, a table ran full, two different
blocks got the same identity, or the template failed. Each has a code and a message.
-/

set_option autoImplicit false
set_option relaxedAutoImplicit false

namespace StepSequencer

open Json (decimal)

/-- The two tables of compiled channels: full volume, and low volume. -/
inductive TableKind where
  | high
  | low
deriving DecidableEq, Repr

namespace TableKind

/-- The table for a channel that is attenuated or not. -/
def ofAttenuation (attenuate : Bool) : TableKind :=
  if attenuate then .low else .high

/-- The index of the first entry. -/
def base : TableKind → Nat
  | .high => 0
  | .low => 128

/-- The number of entries for which one more than the index fits the table's range of bytes. -/
def capacity : TableKind → Nat
  | .high => 128
  | .low => 127

/-- The name of the table. -/
def name : TableKind → String
  | .high => "high"
  | .low => "low"

end TableKind

/-- Why a song was not assembled. -/
inductive AssemblyError where
  | invalidSong (faults : List SongFault)
  | invalidStepCount (steps : UInt8)
  | stepCountMismatch (expected found : Nat)
  | wrongChannelCount (pattern found : Nat)
  | channelOutOfRange (channel : Nat)
  | reservedCode (sound : Option UInt8) (note : Option String) (octave : Option UInt8)
  | identityCollision (identity : String)
  | tableFull (table : TableKind)
  | badData (reason : String)
  | render (template : String) (reason : String)
deriving DecidableEq, Repr

namespace AssemblyError

/-- The words for a value that may be absent. -/
def optionText {α : Type} (text : α → String) : Option α → String
  | none => "None"
  | some a => "Some(" ++ text a ++ ")"

/-- The words for a byte that may be absent. -/
def byteText (byte : Option UInt8) : String :=
  optionText (fun n ↦ decimal n.toNat) byte

/-- The words for the error. -/
def message : AssemblyError → String
  | .invalidSong faults =>
    "song validation failed: " ++ "; ".intercalate (faults.map SongFault.text)
  | .invalidStepCount steps =>
    "step count " ++ decimal steps.toNat ++ " does not evenly divide 32"
  | .stepCountMismatch expected found =>
    "channel has " ++ decimal found ++ " steps, expected " ++ decimal expected
  | .wrongChannelCount pattern found =>
    "pattern " ++ decimal pattern ++ " has " ++ decimal found ++ " channels, expected 2"
  | .channelOutOfRange channel =>
    "channel index " ++ decimal channel ++ " out of range (patterns have 2 channels)"
  | .reservedCode sound note octave =>
    "note encoder returned reserved rest code 255 for sound " ++ byteText sound ++ " note " ++
      optionText Text.quoted note ++ " octave " ++ byteText octave
  | .identityCollision identity => "block identity collision on " ++ identity
  | .tableFull table =>
    table.name ++ " pattern table is full (" ++ decimal table.capacity ++ " entries)"
  | .badData reason => "document data error: " ++ reason
  | .render template reason => "template '" ++ template ++ "' failed to render: " ++ reason

/-- The code under which the error is reported. -/
def code : AssemblyError → String
  | .invalidSong .. => "ASM_001"
  | .invalidStepCount .. => "ASM_002"
  | .stepCountMismatch .. => "ASM_003"
  | .channelOutOfRange .. => "ASM_004"
  | .reservedCode .. => "ASM_005"
  | .identityCollision .. => "ASM_006"
  | .tableFull .. => "ASM_007"
  | .badData .. => "ASM_008"
  | .render .. => "ASM_009"
  | .wrongChannelCount .. => "ASM_010"

/-- The group of errors it belongs to. -/
def category (_ : AssemblyError) : String :=
  "asm"

/-- The text of the error behind it, where there is one. -/
def reason? : AssemblyError → Option String
  | .badData reason => some reason
  | .render _ reason => some reason
  | _ => none

end AssemblyError

end StepSequencer
