import StepSequencer.Command.Ink
import StepSequencer.Command.Log
import StepSequencer.Storage.FileTree

/-!
# What comes of a run

A run prints, reports errors, logs, changes files, and ends with a code. What it writes is kept
as a list of events in their order; `Outcome.output` and `Outcome.errors` are the texts of the two
streams, of which the second also has the log records that a filter admits.
-/

set_option autoImplicit false
set_option relaxedAutoImplicit false

namespace StepSequencer

/-- Something that a run writes. -/
inductive Event where
  | print (text : String)
  | complain (text : String)
  | log (record : LogRecord)
deriving DecidableEq, Repr

/-- What comes of a run. -/
structure Outcome where
  code : Nat
  events : List Event
  files : FileTree

namespace Outcome

/-- The output of a run. -/
def output (outcome : Outcome) : String :=
  String.join (outcome.events.map fun event ↦
    match event with
    | .print text => text
    | _ => "")

/-- What a run writes besides its output, with the records that a filter admits at a time. -/
def errors (outcome : Outcome) (filter : LogFilter) (ink : Ink) (time : String) : String :=
  String.join (outcome.events.map fun event ↦
    match event with
    | .print _ => ""
    | .complain text => text
    | .log record => if filter.admits record then record.line ink time else "")

/-- A run that went well. -/
def success (files : FileTree) (events : List Event) : Outcome :=
  ⟨0, events, files⟩

/-- A run that ends with messages, each the reason of the one before it. -/
def failure (ink : Ink) (files : FileTree) (events : List Event) (chain : List String) :
    Outcome :=
  ⟨1, events ++ [.complain (ink.paint .red "error" ++ ": " ++ ": ".intercalate chain ++ "\n")],
    files⟩

@[simp] theorem files_success (files : FileTree) (events : List Event) :
    (success files events).files = files :=
  rfl

@[simp] theorem files_failure (ink : Ink) (files : FileTree) (events : List Event)
    (chain : List String) : (failure ink files events chain).files = files :=
  rfl

end Outcome

end StepSequencer
