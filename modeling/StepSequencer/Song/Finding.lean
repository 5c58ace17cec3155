/-!
# Findings about a song

A finding is a code, a message and possibly the path of the field it is about. Errors forbid
playing the song, warnings do not: a `Report` passes until an error is added to it.
-/

set_option autoImplicit false
set_option relaxedAutoImplicit false

namespace StepSequencer

/-- The kinds of errors in a song. -/
inductive ErrorCode where
  | invalidStepCount
  | wrongChannelCount
  | stepCountMismatch
  | invalidNote
  | hatPatternLength
  | hatPatternValue
  | hatVolumeOutOfRange
  | hatPitchOutOfRange
deriving DecidableEq, Repr

/-- The code under which an error is reported. -/
def ErrorCode.text : ErrorCode → String
  | .invalidStepCount => "E001"
  | .wrongChannelCount => "E002"
  | .stepCountMismatch => "E003"
  | .invalidNote => "E004"
  | .hatPatternLength => "E010"
  | .hatPatternValue => "E011"
  | .hatVolumeOutOfRange => "E012"
  | .hatPitchOutOfRange => "E013"

/-- The kinds of warnings about a song. -/
inductive WarningCode where
  | missingTitle
  | unusualStepCount
  | noPatterns
deriving DecidableEq, Repr

/-- The code under which a warning is reported. -/
def WarningCode.text : WarningCode → String
  | .missingTitle => "W001"
  | .unusualStepCount => "W002"
  | .noPatterns => "W003"

/-- Something to say about a song, of a kind, possibly about one field. -/
structure Finding (κ : Type) where
  code : κ
  message : String
  path : Option String
deriving DecidableEq, Repr

/-- The words for a finding whose code has a text. -/
def Finding.describe {κ : Type} (codeText : κ → String) (finding : Finding κ) : String :=
  let base := codeText finding.code ++ ": " ++ finding.message
  match finding.path with
  | some path => base ++ " (at " ++ path ++ ")"
  | none => base

/-- An error in a song. -/
abbrev SongFault : Type :=
  Finding ErrorCode

/-- A warning about a song. -/
abbrev SongWarning : Type :=
  Finding WarningCode

/-- The words for an error. -/
def SongFault.text (fault : SongFault) : String :=
  fault.describe ErrorCode.text

/-- The words for a warning. -/
def SongWarning.text (warning : SongWarning) : String :=
  warning.describe WarningCode.text

/-- Whether no error was found, and all findings about a song in the order of discovery. -/
structure Report where
  passes : Bool := true
  errors : List SongFault := []
  warnings : List SongWarning := []
  passes_eq : passes = errors.isEmpty := by rfl
deriving DecidableEq, Repr

namespace Report

theorem false_eq_isEmpty_append (errors : List SongFault) (fault : SongFault) :
    false = (errors ++ [fault]).isEmpty := by
  simp

/-- The report with one more error, which does not pass. -/
def addError (report : Report) (fault : SongFault) : Report where
  passes := false
  errors := report.errors ++ [fault]
  warnings := report.warnings
  passes_eq := false_eq_isEmpty_append report.errors fault

/-- The report with one more warning. -/
def addWarning (report : Report) (warning : SongWarning) : Report :=
  { report with warnings := report.warnings ++ [warning] }

/-- The warnings of a report that passes, or the errors of one that does not. -/
def toResult (report : Report) : Except (List SongFault) (List SongWarning) :=
  if report.passes then .ok report.warnings else .error report.errors

/-- Errors are added behind those of the report. -/
theorem errors_foldl_addError (faults : List SongFault) (report : Report) :
    (faults.foldl addError report).errors = report.errors ++ faults := by
  induction faults generalizing report with
  | nil => exact (List.append_nil _).symm
  | cons fault rest ih =>
    rw [List.foldl_cons, ih]
    exact List.append_assoc report.errors [fault] rest

theorem warnings_foldl_addError (faults : List SongFault) (report : Report) :
    (faults.foldl addError report).warnings = report.warnings := by
  induction faults generalizing report with
  | nil => rfl
  | cons fault rest ih => exact ih (report.addError fault)

theorem errors_foldl_addWarning (warnings : List SongWarning) (report : Report) :
    (warnings.foldl addWarning report).errors = report.errors := by
  induction warnings generalizing report with
  | nil => rfl
  | cons warning rest ih => exact ih (report.addWarning warning)

/-- Warnings are added behind those of the report. -/
theorem warnings_foldl_addWarning (warnings : List SongWarning) (report : Report) :
    (warnings.foldl addWarning report).warnings = report.warnings ++ warnings := by
  induction warnings generalizing report with
  | nil => exact (List.append_nil _).symm
  | cons warning rest ih =>
    rw [List.foldl_cons, ih]
    exact List.append_assoc report.warnings [warning] rest

end Report

end StepSequencer
