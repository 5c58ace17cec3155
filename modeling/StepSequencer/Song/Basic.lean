/-!
# Songs of a step sequencer

A song is a list of patterns and a hi-hat track. A pattern holds two channels of equally many
steps; a step may name a sound, a note and an octave, and may be accented. The sequencer plays
32 slots a pattern, so a pattern of `n` steps needs `n` to divide 32, and each step then covers
`slotIncrement n` slots.
-/

set_option autoImplicit false
set_option relaxedAutoImplicit false

namespace StepSequencer

/-- The number of slots the sequencer plays in one pattern. -/
def slotsPerPattern : Nat := 32

/-- The number of channels of every playable pattern. -/
def channelsPerPattern : Nat := 2

/-- The number of entries of a hat pattern. -/
def hatPatternLength : Nat := 32

/-- One step of a channel; without a sound it is a rest. -/
structure Step where
  sound : Option UInt8 := none
  note : Option String := none
  octave : Option UInt8 := none
  accent : Bool := false
deriving DecidableEq, Repr

/-- One voice of a pattern. An attenuated channel is played at low volume. -/
structure Channel where
  attenuate : Bool
  steps : List Step
deriving DecidableEq, Repr

/-- A pattern: the number of steps of each channel, and the channels in physical order. -/
structure Pattern where
  steps : UInt8
  channels : List Channel
deriving DecidableEq, Repr

/-- The hi-hat track: the measure it starts at, how it sounds, and when it is struck. -/
structure Hats where
  start : UInt8 := 255
  volume : UInt8 := 5
  pitch : UInt8 := 0
  sound : UInt8 := 8
  pattern : List UInt8 := List.replicate hatPatternLength 0
deriving DecidableEq, Repr

/-- What is known about a song; instants are milliseconds since the start of 1970. -/
structure Meta where
  title : String
  author : String
  created : Int64
  modified : Int64
  tempo : UInt8
  tuning : UInt8
deriving DecidableEq, Repr

/-- A song, with the identifier it is stored under if it has one. -/
structure Song where
  id : Option String
  info : Meta
  patterns : List Pattern
  hats : Hats
deriving DecidableEq, Repr

/-- The tempo of a new song. -/
def defaultTempo : UInt8 := 4

/-- The number of steps of a new song's pattern. -/
def defaultSteps : UInt8 := 16

/-- The number of slots one step covers, if the steps fill a pattern evenly. -/
def slotIncrement (steps : UInt8) : Option Nat :=
  if steps.toNat = 0 ∨ slotsPerPattern % steps.toNat ≠ 0 then none
  else some (slotsPerPattern / steps.toNat)

namespace Step

/-- A step without sound. -/
def rest : Step := {}

/-- A step with a sound, a note and an octave. -/
def tone (sound : UInt8) (note : String) (octave : UInt8) : Step :=
  { sound := some sound, note := some note, octave := some octave }

/-- A step with a sound only. -/
def percussion (sound : UInt8) : Step :=
  { sound := some sound }

/-- The step with an accent. -/
def accented (step : Step) : Step :=
  { step with accent := true }

/-- Whether the step has no sound. -/
def isRest (step : Step) : Bool :=
  step.sound.isNone

end Step

/-- A channel of rests at full volume. -/
def Channel.empty (length : Nat) : Channel :=
  ⟨false, List.replicate length Step.rest⟩

/-- A pattern of two channels of rests. -/
def Pattern.empty (steps : UInt8) : Pattern :=
  ⟨steps, List.replicate channelsPerPattern (Channel.empty steps.toNat)⟩

/-- The number of slots one step of the pattern covers. -/
def Pattern.increment (pattern : Pattern) : Option Nat :=
  slotIncrement pattern.steps

namespace Song

/-- A new song: one pattern of rests, and hats that never start. -/
def new (id : String) (now : Int64) : Song where
  id := some id
  info := ⟨"", "", now, now, defaultTempo, 0⟩
  patterns := [Pattern.empty defaultSteps]
  hats := {}

/-- The title, or a placeholder where there is none. -/
def displayTitle (song : Song) : String :=
  if song.info.title.isEmpty then "(untitled)" else song.info.title

end Song

end StepSequencer
