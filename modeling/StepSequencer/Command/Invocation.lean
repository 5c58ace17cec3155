import StepSequencer.Assembly.Document
import StepSequencer.Command.Options
import StepSequencer.Storage.Path

/-!
# Commands and their arguments

`Invocation.parse` reads the arguments of a run: options for all commands, a command, and the
options and operands of that command, among which the options for all commands may stand too. A
parameter that is not given may be set by a variable. The arguments behind the command are
judged first.
-/

set_option autoImplicit false
set_option relaxedAutoImplicit false

namespace StepSequencer

/-! ### Commands -/

/-- What to compile a song with, and where to. -/
structure CompileOptions where
  notes : String
  folder : Option String
  template : String
  output : Option String
deriving DecidableEq, Repr

/-- A command. -/
inductive Command where
  | new (title author : Option String) (tempo : Option UInt8)
  | list
  | display (id : String)
  | delete (id : String)
  | validate (id file : Option String)
  | compile (id file : Option String) (options : CompileOptions)
deriving DecidableEq, Repr

/-- A command, and the library it works on if one is named. -/
structure Invocation where
  library : Option String
  command : Command
deriving DecidableEq, Repr

/-! ### Tables -/

/-- The file of the library. -/
def libraryOption : Parameter :=
  { name := "library", shown := "--library <LIBRARY>", kind := .path }

/-- The title of a song. -/
def titleOption : Parameter := { name := "title", shown := "--title <TITLE>", short := some 't' }

/-- The author of a song. -/
def authorOption : Parameter :=
  { name := "author", shown := "--author <AUTHOR>", short := some 'a' }

/-- The tempo of a song. -/
def tempoOption : Parameter := { name := "tempo", shown := "--tempo <TEMPO>", kind := .byte }

/-- The file of a song. -/
def fileOption : Parameter :=
  { name := "file", shown := "--file <FILE>", kind := .path, short := some 'f' }

/-- The file of the note table. -/
def notesOption : Parameter :=
  { name := "notes", shown := "--notes <NOTES>", kind := .path, short := some 'n' }

/-- The folder of templates. -/
def folderOption : Parameter :=
  { name := "template-dir", shown := "--template-dir <TEMPLATE_DIR>", kind := .path }

/-- The name of a template. -/
def templateOption : Parameter := { name := "template", shown := "--template <TEMPLATE>" }

/-- The file to write to. -/
def outputOption : Parameter :=
  { name := "output", shown := "--output <OUTPUT>", kind := .path, short := some 'o' }

/-- The identifier of a song, where it must be given. -/
def idOperand : Parameter := { name := "id", shown := "<ID>" }

/-- The identifier of a song, where a file may be given instead. -/
def optionalIdOperand : Parameter := { name := "id", shown := "[ID]" }

/-- The commands by name. -/
def commandTables : List (String × Table) :=
  [("new", { options := [titleOption, authorOption, tempoOption, libraryOption] }),
    ("list", { options := [libraryOption] }),
    ("show", { options := [libraryOption], operands := [idOperand] }),
    ("delete", { options := [libraryOption], operands := [idOperand] }),
    ("validate", { options := [fileOption, libraryOption], operands := [optionalIdOperand] }),
    ("compile",
      { options := [fileOption, notesOption, folderOption, templateOption, outputOption,
          libraryOption]
        operands := [optionalIdOperand] })]

/-- What may appear before a command. -/
def topTable : Table where
  options := [libraryOption]
  commands := commandTables.map Prod.fst ++ ["help"]

/-- The variables that may set parameters. -/
def parameterVariables : List (Parameter × String) :=
  [(notesOption, "SLOCUM_NOTES"), (libraryOption, "SLOCUM_LIBRARY")]

/-! ### Reading a command -/

/-- Sets the parameters of a table by variables, if they are not given. -/
def setFromVariables (lookup : String → Option String) (table : Table) :
    List (Parameter × String) → Arguments → Except ArgumentError Arguments
  | [], arguments => .ok arguments
  | (parameter, name) :: rest, arguments =>
    match table.options.contains parameter, lookup name with
    | true, some value =>
      match arguments.set parameter value with
      | .error e => .error e
      | .ok arguments => setFromVariables lookup table rest arguments
    | _, _ => setFromVariables lookup table rest arguments

/-- The arguments once all are read: the last one is taken, and variables are looked up. -/
def complete (lookup : String → Option String) (table : Table) (arguments : Arguments) :
    Except ArgumentError Arguments :=
  match arguments.settle with
  | .error e => .error e
  | .ok arguments => setFromVariables lookup table parameterVariables arguments

/-- Refuses a song that is named both by an identifier and by a file; the one given first is
named first. -/
def refuseBoth (arguments : Arguments) : Except ArgumentError Unit :=
  let given := arguments.values.filter fun value ↦ value.1.name = "id" ∨ value.1.name = "file"
  match given with
  | (first, _) :: (second, _) :: _ => .error (.conflict first.shown second.shown)
  | _ => .ok ()

/-- The parameters that a command needs and that are not given. -/
def missingParameters (name : String) (arguments : Arguments) : List String :=
  let has := fun name ↦ (arguments.get? name).isSome
  match name with
  | "show" => if has "id" then [] else ["<ID>"]
  | "delete" => if has "id" then [] else ["<ID>"]
  | "validate" => if has "id" || has "file" then [] else ["<ID>"]
  | "compile" =>
    (if has "notes" then [] else ["--notes <NOTES>"]) ++
      (if has "id" || has "file" then [] else ["<ID>"])
  | _ => []

/-- The command of a name with arguments that are complete. -/
def Command.ofArguments (name : String) (arguments : Arguments) : Command :=
  let value := arguments.get?
  match name with
  | "new" =>
    .new (value "title") (value "author")
      ((value "tempo").bind fun text ↦ (readByteText text).toOption)
  | "show" => .display ((value "id").getD "")
  | "delete" => .delete ((value "id").getD "")
  | "validate" => .validate (value "id") (value "file")
  | "compile" =>
    .compile (value "id") (value "file")
      { notes := (value "notes").getD ""
        folder := value "template-dir"
        template := (value "template").getD defaultTemplate
        output := value "output" }
  | _ => .list

/-- Reads the arguments of a command. -/
def readCommand (lookup : String → Option String) (name : String) (table : Table)
    (texts : List String) : Except Stop Arguments :=
  match readArguments table false {} texts with
  | .error stop => .error stop
  | .ok (arguments, _) =>
    match complete lookup table arguments with
    | .error e => .error (.error e)
    | .ok arguments =>
      match refuseBoth arguments with
      | .error e => .error (.error e)
      | .ok () =>
        match missingParameters name arguments with
        | [] => .ok arguments
        | missing => .error (.error (.missing missing))

/-! ### Reading a run -/

/-- What a run is asked to do: a command, or to answer a question about the program or about
one of its commands. -/
inductive Invocation.Request where
  | run (invocation : Invocation)
  | version (command : Option String)
  | help
deriving DecidableEq, Repr

/-- The request of a run that stopped reading at a level. -/
def Stop.request (command : Option String) : Stop → Except ArgumentError Invocation.Request
  | .error e => .error e
  | .version => .ok (.version command)
  | .help => .ok .help

/-- The answer to a question for help on some commands, each a part of the one before it. No
command has parts of its own. -/
def helpOn (names : List String) : Except ArgumentError Invocation.Request :=
  let known := names.takeWhile topTable.commands.contains
  match names.drop (min known.length 1) with
  | [] => .ok .help
  | name :: _ => .error (.unknownCommand name)

/-- The library named behind the command, or else before it, or else by the variable. -/
def chooseLibrary (outer inner : Arguments) : Option String :=
  (inner.given? libraryOption.name).orElse fun _ ↦ outer.get? libraryOption.name

/-- Reads the arguments of a run. -/
def Invocation.parse (lookup : String → Option String) (texts : List String) :
    Except ArgumentError Invocation.Request :=
  match readArguments topTable false {} texts with
  | .error stop => stop.request none
  | .ok (arguments, none) =>
    match complete lookup topTable arguments with
    | .error e => .error e
    | .ok arguments =>
      .error (if arguments.values.isEmpty && arguments.settings.isEmpty then .nothing
        else .noCommand)
  | .ok (arguments, some (name, rest)) =>
    match commandTables.find? fun entry ↦ entry.1 == name with
    | none => helpOn rest
    | some (_, table) =>
      match readCommand lookup name table rest with
      | .error stop => stop.request (some name)
      | .ok inner =>
        match complete lookup topTable arguments with
        | .error e => .error e
        | .ok outer =>
          .ok (.run ⟨chooseLibrary outer inner, Command.ofArguments name inner⟩)

end StepSequencer
