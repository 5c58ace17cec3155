import StepSequencer.Assembly.Error
import StepSequencer.Tone.Table

/-!
# Slots and groups

A channel is spread over 32 slots: each step takes the first of its slots, and the others rest.
A slot plays the code of its step, or rests; only a slot that plays can be accented. Eight slots
are a group, written as four lines of two codes and a line of eight accent digits.
-/

set_option autoImplicit false
set_option relaxedAutoImplicit false

namespace StepSequencer

open Json (decimal)

/-- The code that makes the sequencer rest. -/
def restCode : UInt8 := 255

/-- The number of slots of a group. -/
def slotsPerGroup : Nat := 8

/-- The number of groups of a pattern. -/
def groupsPerPattern : Nat := slotsPerPattern / slotsPerGroup

/-- The start of every line of bytes. -/
def byteLine : String := "    byte "

/-- What one slot plays. -/
structure Slot where
  code : Option UInt8 := none
  accent : Bool := false
deriving DecidableEq, Repr

namespace Slot

/-- The byte written for the slot. -/
def byte (slot : Slot) : UInt8 :=
  slot.code.getD restCode

/-- The accent digit written for the slot. -/
def digit (slot : Slot) : Char :=
  if slot.accent then '1' else '0'

/-- The slot of a step: the code zero is a rest, and the rest code must not be used. -/
def ofStep (encoder : Encoder) (tuning : UInt8) (step : Step) : Except AssemblyError Slot :=
  match encoder tuning step with
  | none => .ok {}
  | some code =>
    if code = restCode then .error (.reservedCode step.sound step.note step.octave)
    else if code = 0 then .ok {}
    else .ok ⟨some code, step.accent⟩

/-- The slot at which a step may start. -/
def ofStep? (encoder : Encoder) (tuning : UInt8) : Option Step → Except AssemblyError Slot
  | none => .ok {}
  | some step => ofStep encoder tuning step

end Slot

/-- The steps over the slots: each is followed by empty slots up to the next. -/
def spread (increment : Nat) (steps : List Step) : List (Option Step) :=
  steps.flatMap fun step ↦ some step :: List.replicate (increment - 1) none

/-- A list cut into pieces of a size, the last one possibly shorter. -/
def cut {α : Type} (size : Nat) (list : List α) : List (List α) :=
  (List.range ((list.length + size - 1) / size)).map fun n ↦ (list.drop (size * n)).take size

/-- The lines of two codes. -/
def pairLines : List Slot → String
  | first :: second :: rest =>
    byteLine ++ decimal first.byte.toNat ++ ", " ++ decimal second.byte.toNat ++ "\n" ++
      pairLines rest
  | _ => ""

/-- The text of a group: its codes, a blank line, its accents, a blank line. -/
def groupText (slots : List Slot) : String :=
  pairLines slots ++ "\n" ++ byteLine ++ "%" ++ String.ofList (slots.map Slot.digit) ++ "\n\n"

end StepSequencer
