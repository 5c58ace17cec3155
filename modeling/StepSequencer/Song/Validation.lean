import StepSequencer.Json.Mismatch
import StepSequencer.Song.Basic
import StepSequencer.Song.Finding
import StepSequencer.Text.Blank

/-!
# Whether a song can be played

`Song.validate` lists the errors pattern by pattern, within a pattern channel by channel and
step by step, then those of the hats; the warnings are about the title, the lack of patterns and
unusual numbers of steps.
-/

set_option autoImplicit false
set_option relaxedAutoImplicit false

namespace StepSequencer

open Json (decimal)

/-- Whether a text names a note: a letter from A to G, then possibly a sharp or a flat. -/
def isNoteName (name : String) : Bool :=
  match name.toList with
  | [letter] => 'A' ≤ letter && letter ≤ 'G'
  | [letter, sign] => 'A' ≤ letter && letter ≤ 'G' && (sign = '#' || sign = 'b')
  | _ => false

/-- The greatest volume of the hats. -/
def maxHatVolume : UInt8 := 15

/-- The greatest pitch of the hats. -/
def maxHatPitch : UInt8 := 31

/-- The element of a list in a path. -/
def elementPath (path : String) (position : Nat) : String :=
  path ++ "[" ++ decimal position ++ "]"

/-- An error about a field, if a condition holds. -/
def faultIf (condition : Bool) (code : ErrorCode) (message path : String) : List SongFault :=
  if condition then [⟨code, message, some path⟩] else []

/-- A warning about a field, if a condition holds. -/
def warningIf (condition : Bool) (code : WarningCode) (message path : String) :
    List SongWarning :=
  if condition then [⟨code, message, some path⟩] else []

/-- The error of a step whose note is no note name. -/
def Step.faults (path : String) (step : Step) : List SongFault :=
  match step.note with
  | none => []
  | some note =>
    faultIf (!isNoteName note) .invalidNote
      ("note must match '^[A-G][#b]?$', got '" ++ note ++ "'") (path ++ ".note")

/-- The errors of a channel of a pattern with a number of steps. -/
def Channel.faults (steps : UInt8) (path : String) (channel : Channel) : List SongFault :=
  faultIf (channel.steps.length != steps.toNat) .stepCountMismatch
      ("channel has " ++ decimal channel.steps.length ++ " steps, pattern declares " ++
        decimal steps.toNat)
      (path ++ ".steps") ++
    channel.steps.zipIdx.flatMap fun (step, position) ↦
      step.faults (elementPath (path ++ ".steps") position)

/-- The errors of a pattern. -/
def Pattern.faults (path : String) (pattern : Pattern) : List SongFault :=
  faultIf (slotIncrement pattern.steps).isNone .invalidStepCount
      ("steps must evenly divide 32, got " ++ decimal pattern.steps.toNat) (path ++ ".steps") ++
    faultIf (pattern.channels.length != channelsPerPattern) .wrongChannelCount
      ("pattern must have 2 channels, got " ++ decimal pattern.channels.length)
      (path ++ ".channels") ++
    pattern.channels.zipIdx.flatMap fun (channel, position) ↦
      channel.faults pattern.steps (elementPath (path ++ ".channels") position)

/-- The errors of the hats. -/
def Hats.faults (hats : Hats) : List SongFault :=
  faultIf (hats.pattern.length != hatPatternLength) .hatPatternLength
      ("hat pattern must have 32 entries, got " ++ decimal hats.pattern.length)
      "hats.pattern" ++
    (hats.pattern.zipIdx.flatMap fun (value, position) ↦
      faultIf (1 < value) .hatPatternValue
        ("hat pattern entries must be 0 or 1, got " ++ decimal value.toNat)
        (elementPath "hats.pattern" position)) ++
    faultIf (maxHatVolume < hats.volume) .hatVolumeOutOfRange
      ("volume must be 0-15, got " ++ decimal hats.volume.toNat) "hats.volume" ++
    faultIf (maxHatPitch < hats.pitch) .hatPitchOutOfRange
      ("pitch must be 0-31, got " ++ decimal hats.pitch.toNat) "hats.pitch"

/-- Whether a number of steps fills a pattern and is neither 16 nor 32. -/
def isUnusualStepCount (steps : UInt8) : Bool :=
  (slotIncrement steps).isSome && steps != 16 && steps != 32

namespace Song

/-- The errors of a song. -/
def faults (song : Song) : List SongFault :=
  (song.patterns.zipIdx.flatMap fun (pattern, position) ↦
    pattern.faults (elementPath "patterns" position)) ++ song.hats.faults

/-- The warnings about a song. -/
def warnings (song : Song) : List SongWarning :=
  warningIf (Text.isBlankText song.info.title) .missingTitle "song has no title" "meta.title" ++
    warningIf song.patterns.isEmpty .noPatterns
      "song has no patterns; the generated tables will be empty" "patterns" ++
    song.patterns.zipIdx.flatMap fun (pattern, position) ↦
      warningIf (isUnusualStepCount pattern.steps) .unusualStepCount
        ("step count " ++ decimal pattern.steps.toNat ++ " is neither 16 nor 32")
        (elementPath "patterns" position ++ ".steps")

/-- The report about a song: the errors are added to an empty report one by one, then the
warnings. -/
def validate (song : Song) : Report :=
  song.warnings.foldl Report.addWarning (song.faults.foldl Report.addError {})

/-- The report has the faults of the song as its errors. -/
theorem errors_validate (song : Song) : song.validate.errors = song.faults := by
  rw [validate, Report.errors_foldl_addWarning, Report.errors_foldl_addError]
  rfl

/-- The report has the warnings of the song. -/
theorem warnings_validate (song : Song) : song.validate.warnings = song.warnings := by
  rw [validate, Report.warnings_foldl_addWarning, Report.warnings_foldl_addError]
  rfl

end Song

end StepSequencer
