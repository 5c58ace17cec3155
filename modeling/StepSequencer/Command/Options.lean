import StepSequencer.Command.Ink
import StepSequencer.Json.Mismatch

/-!
# Options and operands

Arguments are options, which start with dashes and take a value, and operands. `readArguments`
reads them by a `Table` of the options, operands and commands that may appear, and stops at a
command. The value of an option is behind an equals sign, or it is the next argument, if that
does not start with a dash itself. Behind two dashes alone all arguments are operands.

An option or operand counts as given (`Arguments.settle`) only when the next one is met or the
arguments end, and only then its value is checked; a value behind an equals sign is checked at
once. So an argument that is unknown is reported before the value in front of it.
-/

set_option autoImplicit false
set_option relaxedAutoImplicit false

namespace StepSequencer

open Json (decimal)

/-! ### Tables -/

/-- What a value may be. -/
inductive ValueKind where
  | text
  | path
  | byte
deriving DecidableEq, Repr

/-- A value that can be given: by an option, or as an operand if it has no dashes. `shown` is
how messages show it. -/
structure Parameter where
  name : String
  shown : String
  kind : ValueKind := .text
  short : Option Char := none
deriving DecidableEq, Repr

/-- What may appear among the arguments. -/
structure Table where
  options : List Parameter
  operands : List Parameter := []
  commands : List String := []
deriving DecidableEq, Repr

/-! ### Errors -/

/-- Why arguments were refused. -/
inductive ArgumentError where
  | nothing
  | noCommand
  | unknownCommand (text : String)
  | unexpected (text : String)
  | unwantedValue (value option : String)
  | noValue (shown : String)
  | invalidValue (value shown reason : String)
  | repeated (shown : String)
  | conflict (first second : String)
  | missing (shown : List String)
deriving DecidableEq, Repr

/-- What the program is for. -/
def description : String := "Slocum CLI - song library management and assembly export"

namespace ArgumentError

/-- What was wrong, as messages show it. -/
def wrong (ink : Ink) (words : String) : String :=
  "'" ++ ink.mark [.yellow] words ++ "'"

/-- What it was wrong for, as messages show it. -/
def owner (ink : Ink) (words : String) : String :=
  "'" ++ ink.mark [.bold] words ++ "'"

/-- What an error is about. -/
def words (ink : Ink) : ArgumentError → String
  | .nothing => description
  | .noCommand => wrong ink "slocum" ++ " requires a subcommand but one was not provided"
  | .unknownCommand text => "unrecognized subcommand " ++ wrong ink text
  | .unexpected text => "unexpected argument " ++ wrong ink text ++ " found"
  | .unwantedValue value option =>
    "unexpected value " ++ wrong ink value ++ " for " ++ owner ink option ++
      " found; no more were expected"
  | .noValue shown => "a value is required for " ++ wrong ink shown ++ " but none was supplied"
  | .invalidValue value shown reason =>
    "invalid value " ++ wrong ink value ++ " for " ++ owner ink shown ++ ": " ++ reason
  | .repeated shown => "the argument " ++ wrong ink shown ++ " cannot be used multiple times"
  | .conflict first second =>
    "the argument " ++ wrong ink first ++ " cannot be used with " ++ wrong ink second
  | .missing shown =>
    "the following required arguments were not provided:" ++
      String.join (shown.map fun name ↦ "\n  " ++ ink.mark [.green] name)

/-- The message of an error. -/
def message (ink : Ink) : ArgumentError → String
  | .nothing => description
  | error => ink.mark [.bold, .red] "error:" ++ " " ++ error.words ink

end ArgumentError

/-- Why reading stopped before the end: an error, or a question about the program itself. -/
inductive Stop where
  | error (error : ArgumentError)
  | version
  | help
deriving DecidableEq, Repr

/-! ### Bytes -/

/-- Why a text is no number of 64 bits. -/
inductive NumberFault where
  | empty
  | digit
  | tooLarge
  | tooSmall
deriving DecidableEq, Repr

/-- The words for a fault. -/
def NumberFault.message : NumberFault → String
  | .empty => "cannot parse integer from empty string"
  | .digit => "invalid digit found in string"
  | .tooLarge => "number too large to fit in target type"
  | .tooSmall => "number too small to fit in target type"

/-- Reads digits behind those already read; the first of a wrong digit and a number beyond the
limit is the fault. -/
def readDigits (limit : Nat) (beyond : NumberFault) : Nat → List Char → Except NumberFault Nat
  | n, [] => .ok n
  | n, c :: rest =>
    if !c.isDigit then .error .digit
    else
      let n := 10 * n + (c.toNat - 48)
      if limit < n then .error beyond else readDigits limit beyond n rest

/-- Reads a number of 64 bits with an optional sign. -/
def readNumber (text : String) : Except NumberFault Int :=
  match text.toList with
  | [] => .error .empty
  | ['-'] => .error .digit
  | ['+'] => .error .digit
  | '-' :: digits => (readDigits 0x8000000000000000 .tooSmall 0 digits).map fun n ↦ -(n : Int)
  | '+' :: digits => (readDigits 0x7fffffffffffffff .tooLarge 0 digits).map Int.ofNat
  | digits => (readDigits 0x7fffffffffffffff .tooLarge 0 digits).map Int.ofNat

/-- Reads a byte, or says why a text is none. -/
def readByteText (text : String) : Except String UInt8 :=
  match readNumber text with
  | .error fault => .error fault.message
  | .ok n =>
    if 0 ≤ n ∧ n ≤ 255 then .ok (UInt8.ofNat n.toNat)
    else .error (decimal n ++ " is not in 0..=255")

/-! ### Reading -/

/-- The values given so far, in order, the values set by variables, and the last parameter that
was met with its value. -/
structure Arguments where
  values : List (Parameter × String) := []
  settings : List (Parameter × String) := []
  pending : Option (Parameter × Option String) := none
  operands : Nat := 0
deriving DecidableEq, Repr

namespace Arguments

/-- The value given for a parameter. -/
def given? (arguments : Arguments) (name : String) : Option String :=
  (arguments.values.find? fun value ↦ value.1.name == name).map Prod.snd

/-- The value given for a parameter, or else set by a variable. -/
def get? (arguments : Arguments) (name : String) : Option String :=
  (arguments.given? name).orElse fun _ ↦
    (arguments.settings.find? fun value ↦ value.1.name == name).map Prod.snd

/-- Checks a value. -/
def check (parameter : Parameter) (value : String) : Except ArgumentError Unit :=
  match parameter.kind with
  | .text => .ok ()
  | .path => if value.isEmpty then .error (.noValue parameter.shown) else .ok ()
  | .byte =>
    match readByteText value with
    | .ok _ => .ok ()
    | .error reason => .error (.invalidValue value parameter.shown reason)

/-- Takes a value for a parameter. -/
def give (arguments : Arguments) (parameter : Parameter) (value : String) :
    Except ArgumentError Arguments :=
  if (arguments.given? parameter.name).isSome then .error (.repeated parameter.shown)
  else match check parameter value with
    | .error e => .error e
    | .ok () => .ok { arguments with values := arguments.values ++ [(parameter, value)] }

/-- Takes a value for a parameter from a variable, unless one is given. -/
def set (arguments : Arguments) (parameter : Parameter) (value : String) :
    Except ArgumentError Arguments :=
  if (arguments.given? parameter.name).isSome then .ok arguments
  else match check parameter value with
    | .error e => .error e
    | .ok () => .ok { arguments with settings := arguments.settings ++ [(parameter, value)] }

/-- Takes the parameter that was met last. -/
def settle (arguments : Arguments) : Except ArgumentError Arguments :=
  match arguments.pending with
  | none => .ok arguments
  | some (parameter, none) => .error (.noValue parameter.shown)
  | some (parameter, some value) => give { arguments with pending := none } parameter value

/-- Takes the parameter that was met last, and meets another one, whose value may follow. -/
def meet (arguments : Arguments) (parameter : Parameter) (value : Option String) :
    Except ArgumentError Arguments :=
  match arguments.settle with
  | .error e => .error e
  | .ok arguments => .ok { arguments with pending := some (parameter, value) }

/-- Takes the parameter that was met last, and a value for another one. -/
def giveNow (arguments : Arguments) (parameter : Parameter) (value : String) :
    Except ArgumentError Arguments :=
  match arguments.settle with
  | .error e => .error e
  | .ok arguments => arguments.give parameter value

/-- Whether the parameter that was met last lacks its value. -/
def isWaiting (arguments : Arguments) : Bool :=
  match arguments.pending with
  | some (_, none) => true
  | _ => false

/-- The value for the parameter that lacks one. -/
def supply (arguments : Arguments) (value : String) : Arguments :=
  { arguments with pending := arguments.pending.map fun pending ↦ (pending.1, some value) }

end Arguments

/-- Adds the reason to stop to an outcome. -/
def orStop (outcome : Except ArgumentError Arguments) : Except Stop Arguments :=
  outcome.mapError .error

/-- Stops for a question, once the parameter that was met last has been taken. -/
def askAfter (arguments : Arguments) (question : Stop) : Except Stop Arguments :=
  match arguments.settle with
  | .error e => .error (.error e)
  | .ok _ => .error question

/-- Reads an argument behind two dashes. -/
def readLong (table : Table) (arguments : Arguments) (body : List Char) :
    Except Stop Arguments :=
  let name := String.ofList (body.takeWhile (· ≠ '='))
  let value := match body.drop name.length with
    | [] => none
    | _ :: value => some (String.ofList value)
  match table.options.find? fun option ↦ option.name == name with
  | some option =>
    match value with
    | some value => orStop (arguments.giveNow option value)
    | none => orStop (arguments.meet option none)
  | none =>
    if name = "version" ∨ name = "help" then
      match value with
      | some value => .error (.error (.unwantedValue value ("--" ++ name)))
      | none => askAfter arguments (if name = "version" then .version else .help)
    else .error (.error (.unexpected ("--" ++ name)))

/-- Reads an argument behind one dash: a letter, and a value if more follows. -/
def readShort (table : Table) (arguments : Arguments) (letter : Char) (body : List Char) :
    Except Stop Arguments :=
  match table.options.find? fun option ↦ option.short == some letter with
  | some option =>
    match body with
    | [] => orStop (arguments.meet option none)
    | '=' :: value => orStop (arguments.giveNow option (String.ofList value))
    | value => orStop (arguments.giveNow option (String.ofList value))
  | none =>
    if letter = 'V' then askAfter arguments .version
    else if letter = 'h' then askAfter arguments .help
    else .error (.error (.unexpected ("-" ++ String.singleton letter)))

/-- Reads an operand. -/
def readOperand (table : Table) (arguments : Arguments) (plain : Bool) (text : String) :
    Except Stop Arguments :=
  match table.operands[arguments.operands]? with
  | some operand =>
    match arguments.meet operand (some text) with
    | .error e => .error (.error e)
    | .ok arguments => .ok { arguments with operands := arguments.operands + 1 }
  | none =>
    if table.commands.isEmpty || (plain && table.commands.contains text) then
      .error (.error (.unexpected text))
    else .error (.error (.unknownCommand text))

/-- Reads an argument that is not a command. -/
def readArgument (table : Table) (arguments : Arguments) (text : String) :
    Except Stop Arguments :=
  match text.toList with
  | '-' :: '-' :: body => readLong table arguments body
  | '-' :: letter :: body => readShort table arguments letter body
  | _ =>
    if arguments.isWaiting then .ok (arguments.supply text)
    else readOperand table arguments false text

/-- Reads arguments up to a command, and gives the command with the arguments behind it.
`plain` says that two dashes have been met. -/
def readArguments (table : Table) :
    Bool → Arguments → List String → Except Stop (Arguments × Option (String × List String))
  | _, arguments, [] => .ok (arguments, none)
  | plain, arguments, text :: rest =>
    if plain then
      match readOperand table arguments true text with
      | .error stop => .error stop
      | .ok arguments => readArguments table true arguments rest
    else if !arguments.isWaiting && table.commands.contains text then
      .ok (arguments, some (text, rest))
    else if text = "--" then readArguments table true arguments rest
    else
      match readArgument table arguments text with
      | .error stop => .error stop
      | .ok arguments => readArguments table false arguments rest

end StepSequencer
