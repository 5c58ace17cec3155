import StepSequencer.Json.Printer
import StepSequencer.Text.Quoted
import StepSequencer.Text.Split

/-!
# Templates

A template is text with references. A reference is a path of names into the data, divided by
points; the name `this` stands for the value it is looked up in. Rendering is strict: a path
that leads nowhere is a fault. Values are written without any escaping: strings as they are,
null as nothing, an array as its elements in brackets, and an object as a fixed word. A few single
names are no references but words of the template language (`Word`), whatever the data has.
-/

set_option autoImplicit false
set_option relaxedAutoImplicit false

namespace StepSequencer.Template

open Json (Value)

/-! ### Parts -/

/-- A place in the text of a template: line and column from one. -/
structure Spot where
  line : Nat
  column : Nat
deriving DecidableEq, Repr

namespace Spot

/-- The start of a text. -/
def start : Spot := ⟨1, 1⟩

/-- The place behind a character. -/
def next (spot : Spot) (c : Char) : Spot :=
  if c = '\n' then ⟨spot.line + 1, 1⟩ else ⟨spot.line, spot.column + 1⟩

/-- The place behind some characters. -/
def past (spot : Spot) (text : List Char) : Spot :=
  text.foldl next spot

end Spot

/-- A part of a template: text, or a reference and the place where it stands. -/
inductive Part where
  | text (text : String)
  | reference (path : String) (spot : Spot)
deriving DecidableEq, Repr

end Template

/-- A template. -/
structure Template where
  parts : List Template.Part
deriving DecidableEq, Repr

namespace Template

open Json (Value)

/-! ### Words -/

/-- What a word of the language does if it stands in a tag by itself: nothing, with a note in the
log or without one, or it fails, because it needs an argument, which messages name as `argument`
of `owner`. -/
inductive Word where
  | silent
  | noted
  | lacking (owner argument : String)
deriving DecidableEq, Repr

/-- The words that are tests or measures of their arguments. -/
def testWords : List String :=
  ["eq", "ne", "gt", "gte", "lt", "lte", "and", "or", "not", "len"]

/-- The word that a path is, if it is one. -/
def word? (path : String) : Option Word :=
  if path = "raw" then some .silent
  else if path = "log" then some .noted
  else if path = "unless" then some (.lacking "if" "at index 0")
  else if ["if", "each", "with", "lookup"].contains path then some (.lacking path "at index 0")
  else if testWords.contains path then some (.lacking path "with name x")
  else none

/-! ### Looking up a reference -/

/-- The names of a path. -/
def pathNames (path : String) : List String :=
  ((Text.split '.' path.toList).map String.ofList).filter (· != "this")

/-- The position that a name gives in an array: its decimal digits, within 64 bits. -/
def position? (name : String) : Option Nat :=
  if name.isEmpty || !name.all Char.isDigit then none
  else
    let n := name.foldl (fun n c ↦ 10 * n + (c.toNat - 48)) 0
    if n < 0x10000000000000000 then some n else none

/-- The value that names lead to, if there is one. Fails at an array with the name that is no
position. -/
def look : List String → Value → Except String (Option Value)
  | [], value => .ok (some value)
  | name :: rest, .object members =>
    match Json.member? name members with
    | some value => look rest value
    | none => .ok none
  | name :: rest, .array elements =>
    match position? name with
    | none => .error name
    | some position =>
      match elements[position]? with
      | some value => look rest value
      | none => .ok none
  | _ :: _, _ => .ok none

/-! ### Writing a value -/

mutual

/-- The text of a value. -/
def valueText : Value → String
  | .null => ""
  | .string s => s
  | .array elements => "[" ++ elementsText elements ++ "]"
  | .object _ => "[object]"
  | .bool b => if b then "true" else "false"
  | .number n => (Value.number n).compact

/-- The texts of some values, with commas between them. -/
def elementsText : List Value → String
  | [] => ""
  | [value] => valueText value
  | value :: rest => valueText value ++ ", " ++ elementsText rest

end

/-! ### Rendering -/

/-- Why a reference could not be rendered. -/
inductive Fault where
  | missing (path : String)
  | notPosition (name : String)
  | lacking (owner argument : String)
deriving DecidableEq, Repr

/-- The words for a fault. -/
def Fault.message : Fault → String
  | .missing path => "Failed to access variable in strict mode Some(" ++ Text.quoted path ++ ")"
  | .notPosition name => "Cannot access array/vector with string index, " ++ name
  | .lacking owner argument =>
    "Helper/Decorator " ++ owner ++ " param " ++ argument ++ " required but not found"

/-- The text of the value that a path leads to. -/
def pathText (data : Value) (path : String) : Except Fault String :=
  match look (pathNames path) data with
  | .error name => .error (.notPosition name)
  | .ok none => .error (.missing path)
  | .ok (some value) => .ok (valueText value)

/-- The text of a reference, or of a word in its place. -/
def referenceText (data : Value) (path : String) : Except Fault String :=
  match word? path with
  | some (.lacking owner argument) => .error (.lacking owner argument)
  | some _ => .ok ""
  | none => pathText data path

/-- The text of some parts, or the first fault and its place. -/
def renderParts (data : Value) : List Part → Except (Spot × Fault) String
  | [] => .ok ""
  | .text text :: rest =>
    match renderParts data rest with
    | .error e => .error e
    | .ok others => .ok (text ++ others)
  | .reference path spot :: rest =>
    match referenceText data path with
    | .error fault => .error (spot, fault)
    | .ok text =>
      match renderParts data rest with
      | .error e => .error e
      | .ok others => .ok (text ++ others)

/-- The text of a template over some data. -/
def render (template : Template) (data : Value) : Except (Spot × Fault) String :=
  renderParts data template.parts

/-- The paths that are looked up while some parts are rendered: all up to the first fault. -/
def lookedUp (data : Value) : List Part → List String
  | [] => []
  | .text _ :: rest => lookedUp data rest
  | .reference path _ :: rest =>
    match referenceText data path with
    | .error _ => [path]
    | .ok _ => path :: lookedUp data rest

/-! ### Making a template -/

/-- What a template is made of: text, and references between two pairs of braces. -/
inductive Piece where
  | text (text : String)
  | reference (path : String)
deriving DecidableEq, Repr

/-- The parts of some pieces, of which the first stands at a place. -/
def partsOf : Spot → List Piece → List Part
  | _, [] => []
  | spot, .text text :: rest => .text text :: partsOf (spot.past text.toList) rest
  | spot, .reference path :: rest =>
    .reference path spot :: partsOf ⟨spot.line, spot.column + path.length + 4⟩ rest

/-- The template of some pieces. -/
def ofPieces (pieces : List Piece) : Template :=
  ⟨partsOf .start pieces⟩

/-- The text of some pieces, with a text for each reference. -/
def filled (fill : String → String) : List Piece → String
  | [] => ""
  | .text text :: rest => text ++ filled fill rest
  | .reference path :: rest => fill path ++ filled fill rest

/-- The tag of a reference. -/
def tag (path : String) : String :=
  "\x7b\x7b" ++ path ++ "\x7d\x7d"

end Template

end StepSequencer
