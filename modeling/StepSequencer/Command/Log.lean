import StepSequencer.Command.Ink
import StepSequencer.Text.Alphanumeric
import StepSequencer.Text.Blank
import StepSequencer.Text.Order
import StepSequencer.Text.Regular.Basic
import StepSequencer.Text.Split

/-!
# Log records

A record has a level, the part of the program it comes from, words, and named values. A filter
admits records by directives, each a greatest level for the parts whose names start with a text,
and perhaps only for records with a value of some name. The most particular directive for a record
decides (`LogFilter.decisive?`): the one with the longest text, of several with the same text one
with the name of a value, and of several that are alike the last.

`LogFilter.parse?` reads directives divided by commas: a level, a text, or a text and a level with
an equals sign between them. Brackets behind the text, or instead of it, confine a directive to
what happens in a scope of a name, or, with braces in them, to what has a value of a name, perhaps
one that is a number or fits a regular expression. No record is made in a scope, and the values of
records are not compared with anything, so a directive with a scope, or with what a value must be,
concerns no record; but it must be well formed.
-/

set_option autoImplicit false
set_option relaxedAutoImplicit false

namespace StepSequencer

/-! ### Records -/

/-- How grave a record is. -/
inductive LogLevel where
  | error
  | warn
  | info
  | debug
  | trace
deriving DecidableEq, Repr

namespace LogLevel

/-- The number of a level, the gravest first. -/
def rank : LogLevel → Nat
  | .error => 1
  | .warn => 2
  | .info => 3
  | .debug => 4
  | .trace => 5

/-- The name of a level, five characters wide. -/
def name : LogLevel → String
  | .error => "ERROR"
  | .warn => " WARN"
  | .info => " INFO"
  | .debug => "DEBUG"
  | .trace => "TRACE"

/-- How the name of a level looks. -/
def look : LogLevel → Look
  | .error => .red
  | .warn => .yellow
  | .info => .green
  | .debug => .blue
  | .trace => .purple

end LogLevel

/-- A record. Its `hidden` names are of values that its line does not have. -/
structure LogRecord where
  level : LogLevel
  origin : String
  words : String
  values : List (String × String)
  hidden : List String := []
deriving DecidableEq, Repr

namespace LogRecord

/-- A named value of a record, behind a blank. -/
def valueText (ink : Ink) (value : String × String) : String :=
  " " ++ ink.paint .italic value.1 ++ ink.paint .dim "=" ++ value.2

/-- The line of a record at a time. -/
def line (record : LogRecord) (ink : Ink) (time : String) : String :=
  ink.paint .dim time ++ " " ++ ink.paint record.level.look record.level.name ++ " " ++
    ink.paint .dim record.origin ++ ink.paint .dim ":" ++ " " ++ record.words ++
    String.join (record.values.map (valueText ink)) ++ "\n"

/-- Whether a record has a value of a name; its words count as one. -/
def has (record : LogRecord) (name : String) : Bool :=
  name = "message" || record.values.any (fun value ↦ value.1 == name) ||
    record.hidden.contains name

end LogRecord

/-! ### Directives -/

/-- The greatest rank that is admitted for the parts whose names start with a text, if there is
one, and for records with a value of a name, if there is one. -/
structure LogDirective where
  origin : Option String
  value : Option String
  rank : Nat
deriving DecidableEq, Repr

namespace LogDirective

/-- Whether a directive is about a record. -/
def concerns (directive : LogDirective) (record : LogRecord) : Bool :=
  (match directive.origin with
    | some origin => origin.toList.isPrefixOf record.origin.toList
    | none => true) &&
    match directive.value with
    | some name => record.has name
    | none => true

/-- The length of the text of a directive, by which no text comes before an empty one. -/
def width (directive : LogDirective) : Nat :=
  match directive.origin with
  | some origin => origin.utf8ByteSize + 1
  | none => 0

/-- Whether a directive decides instead of one before it: by the length of its text, then by
having a name of a value, then by the order of those names. -/
def overrides (directive other : LogDirective) : Bool :=
  if directive.width = other.width then
    match directive.value, other.value with
    | some name, some otherName => !Text.precedes name otherName
    | none, some _ => false
    | _, none => true
  else other.width < directive.width

end LogDirective

/-! ### Reading directives -/

/-- The number that digits with an optional plus sign give. -/
def digits? (text : List Char) : Option Nat :=
  let digits := match text with
    | '+' :: digits => digits
    | digits => digits
  if digits.isEmpty || !digits.all Char.isDigit then none
  else some (digits.foldl (fun n c ↦ 10 * n + (c.toNat - 48)) 0)

/-- The rank of a level by its name or its number; no record has the rank of `off`. -/
def rankOf? (text : List Char) : Option Nat :=
  match digits? text with
  | some n => if n ≤ 5 then some n else none
  | none =>
    match (String.ofList text).toLower with
    | "off" => some 0
    | "error" => some 1
    | "warn" => some 2
    | "info" => some 3
    | "debug" => some 4
    | "trace" => some 5
    | _ => none

/-- The rank of the level at the end of a directive; nothing admits all records. -/
def lastRank? (text : List Char) : Option Nat :=
  if text.isEmpty then some 5 else rankOf? text

/-- Whether a text is digits, at least one, with a point among them or at an end of them or
without one, and perhaps an exponent. -/
def isDecimal (text : List Char) : Bool :=
  let whole := text.takeWhile Char.isDigit
  let rest := text.drop whole.length
  let (places, rest) := match rest with
    | '.' :: rest => (rest.takeWhile Char.isDigit, rest.dropWhile Char.isDigit)
    | rest => ([], rest)
  !(whole ++ places).isEmpty &&
    match rest with
    | [] => true
    | c :: exponent => c.toLower = 'e' && isInteger exponent
where
  /-- Whether a text is digits, at least one, with an optional sign. -/
  isInteger (text : List Char) : Bool :=
    let digits := match text with
      | '+' :: digits => digits
      | '-' :: digits => digits
      | digits => digits
    !digits.isEmpty && digits.all Char.isDigit

/-- Whether a text is a number with an optional sign, or a word for what is none or has no
end. -/
def isNumeral (text : List Char) : Bool :=
  let amount := match text with
    | '+' :: amount => amount
    | '-' :: amount => amount
    | amount => amount
  isDecimal amount || ["inf", "infinity", "nan"].contains (String.ofList amount).toLower

/-- Whether a value can be compared with a text: a number or a regular expression. -/
def isComparable (text : List Char) : Bool :=
  isNumeral text || Text.isRegular text

/-- What a text asks for: a directive for records, or nothing that could concern one. -/
inductive LogRule where
  | records (directive : LogDirective)
  | nothing
deriving DecidableEq, Repr

namespace LogRule

/-- Part of a text, from one place to another. -/
def part (text : List Char) (start stop : Nat) : List Char :=
  (text.take stop).drop start

/-- The rule of a value in braces: its name, or a name and what it must be. What follows a second
equals sign does not count. -/
def ofValue? (origin : Option String) (value : List Char) : Option (Nat → LogRule) :=
  match Text.split '=' value with
  | _ :: wanted :: _ => if isComparable wanted then some fun _ ↦ .nothing else none
  | _ => some fun rank ↦ .records ⟨origin, some (String.ofList value), rank⟩

/-- Reads what follows brackets, which end before a place: nothing, or a level. -/
def finish? (text : List Char) (place : Nat) (rule : Nat → LogRule) : List Char → Option LogRule
  | [] => some (rule 5)
  | '=' :: _ => (lastRank? (text.drop (place + 1))).map rule
  | _ :: _ => none

/-- Reads brackets, whose inside starts at a place. -/
def inBrackets? (text : List Char) (origin : Option String) (start : Nat) (inside : List Char) :
    Option LogRule :=
  let name := inside.takeWhile fun c ↦ c ≠ ']' && c ≠ '\x7b'
  let stop := start + name.length
  match inside.drop name.length with
  | [] => none
  | ']' :: rest => finish? text (stop + 1) (fun _ ↦ .nothing) rest
  | _ :: braces =>
    let value := braces.takeWhile (· ≠ '\x7d')
    let valueStop := stop + 1 + value.length
    match braces.drop value.length with
    | '\x7d' :: ']' :: rest =>
      let value := part text (stop + 1) valueStop
      if value.isEmpty then none
      else match ofValue? origin value with
        | none => none
        | some rule =>
          finish? text (valueStop + 2) (if stop = start then rule else fun _ ↦ .nothing) rest
    | _ => none

/-- Whether a directive may start with a character. -/
def isStart (c : Char) : Bool :=
  c = '-' || c = ':' || c = '_' || Text.isAlphanumeric c

/-- Reads a rule. Its parts are found without regard to blanks at the ends of the text, and cut at
the places found from the text as it is. -/
def parse? (text : List Char) : Option LogRule :=
  match Text.trimChars text with
  | [] => none
  | '[' :: inside => inBrackets? text none 1 inside
  | c :: rest =>
    if !isStart c then none
    else
      let name := (c :: rest).takeWhile fun c ↦ c ≠ '=' && c ≠ '['
      let origin := some (String.ofList (text.take name.length))
      match (c :: rest).drop name.length with
      | [] =>
        match rankOf? text with
        | some rank => some (.records ⟨none, none, rank⟩)
        | none => some (.records ⟨some (String.ofList text), none, 5⟩)
      | '[' :: inside => inBrackets? text origin (name.length + 1) inside
      | _ :: _ =>
        (lastRank? (text.drop (name.length + 1))).map fun rank ↦ .records ⟨origin, none, rank⟩

/-- The directive of a rule. -/
def directive? : LogRule → Option LogDirective
  | .records directive => some directive
  | .nothing => none

end LogRule

/-! ### Filters -/

/-- Directives for log records. -/
structure LogFilter where
  directives : List LogDirective
deriving DecidableEq, Repr

namespace LogFilter

/-- The filter that admits records up to a level. -/
def upTo (level : LogLevel) : LogFilter :=
  ⟨[⟨none, none, level.rank⟩]⟩

/-- Reads a filter. Without any rule only errors are admitted. -/
def parse? (text : String) : Option LogFilter :=
  let texts := (Text.split ',' text.toList).filter fun text ↦ !text.isEmpty
  if texts.isEmpty then some (upTo .error)
  else (texts.mapM LogRule.parse?).map fun rules ↦ ⟨rules.filterMap LogRule.directive?⟩

/-- The filter of a run: warnings, unless a variable gives another one. -/
def ofVariable (text : Option String) : LogFilter :=
  (text.bind parse?).getD (upTo .warn)

/-- The directive that decides about a record. -/
def decisive? (filter : LogFilter) (record : LogRecord) : Option LogDirective :=
  (filter.directives.filter fun directive ↦ directive.concerns record).foldl
    (fun best directive ↦
      match best with
      | some other => if directive.overrides other then some directive else some other
      | none => some directive) none

/-- Whether a record is admitted. -/
def admits (filter : LogFilter) (record : LogRecord) : Bool :=
  match filter.decisive? record with
  | some directive => record.level.rank ≤ directive.rank
  | none => false

end LogFilter

end StepSequencer
