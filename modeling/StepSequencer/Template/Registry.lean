import StepSequencer.Assembly.Document
import StepSequencer.Template.Basic

/-!
# Templates by name

A registry holds templates under names; of two with one name the later counts. A new one holds
the template for the assembler source of a song. What a template is, and how it is read from a
text (`TemplateReader`), is left open for all that only keeps and finds templates. The templates
that are rendered are those of `Template`, and the one for songs is then `songTemplate`.
-/

set_option autoImplicit false
set_option relaxedAutoImplicit false

namespace StepSequencer

open Json (Value)

/-- Why a named template could not be rendered. -/
inductive RenderError where
  | unknown (name : String)
  | fault (name : String) (spot : Template.Spot) (fault : Template.Fault)
deriving DecidableEq, Repr

/-- The message of an error. -/
def RenderError.message : RenderError → String
  | .unknown name => "Template not found " ++ name
  | .fault name spot cause =>
    "Error rendering \"" ++ name ++ "\" line " ++ Json.decimal spot.line ++ ", col " ++
      Json.decimal spot.column ++ ": " ++ cause.message

/-- The pieces of the template for songs. -/
def songPieces : List Template.Piece := [
  .text "; ", .reference "meta.title",
  .text "\n; by ", .reference "meta.author",
  .text ", created ", .reference "meta.created",
  .text "\n;\n; Sequencer Kit song data generated by slocum\n\nTEMPODELAY equ ",
  .reference "meta.tempo",
  .text "\n\nHATSTART equ ", .reference "hats.start",
  .text "\nHATVOLUME equ ", .reference "hats.volume",
  .text "\nHATPITCH equ ", .reference "hats.pitch",
  .text "\nHATSOUND equ ", .reference "hats.sound",
  .text ("\n\n;--------------------------------------\n; patterns\n" ++
    ";--------------------------------------\n\n"),
  .reference "patterns.patterns",
  .text ("\n;--------------------------------------\n; pattern tables\n" ++
    ";--------------------------------------\n\npatternArrayH\n"),
  .reference "patterns.patternArrayH",
  .text "\npatternArrayL\n", .reference "patterns.patternArrayL",
  .text ("\n;--------------------------------------\n; song sequences\n" ++
    ";--------------------------------------\n\nsong1\n"),
  .reference "patterns.channel1sequence",
  .text "\nsong2\n", .reference "patterns.channel2sequence",
  .text ("\n;--------------------------------------\n; hi-hat pattern\n" ++
    ";--------------------------------------\n\nhatPattern\n"),
  .reference "hats.pattern",
  .text "\n"]

/-- The template for the assembler source of a song. -/
def songTemplate : Template :=
  .ofPieces songPieces

/-- The text of the template for songs. -/
def songText : String :=
  Template.filled Template.tag songPieces

/-- What reads templates: given the name and the text of one it gives the template, or the reason
why the text is none. -/
abbrev TemplateReader (T : Type) := String → String → Except String T

/-- Templates by name, the latest first. -/
structure Registry (T : Type) where
  templates : List (String × T)
deriving DecidableEq, Repr

namespace Registry

variable {T : Type}

/-- The template of a name. -/
def find? (registry : Registry T) (name : String) : Option T :=
  Json.member? name registry.templates

/-- Whether a name has a template. -/
def has (registry : Registry T) (name : String) : Bool :=
  (registry.find? name).isSome

/-- The registry with one more template. -/
def add (registry : Registry T) (name : String) (template : T) : Registry T :=
  ⟨(name, template) :: registry.templates⟩

/-- A registry with the template for songs, as it is read from its text. -/
def new (reader : TemplateReader T) : Except String (Registry T) :=
  (reader defaultTemplate songText).map fun template ↦ ⟨[(defaultTemplate, template)]⟩

/-- The registry with the template for songs. -/
def builtIn : Registry Template :=
  ⟨[(defaultTemplate, songTemplate)]⟩

/-- Renders data with the template of a name. -/
def render (registry : Registry Template) (name : String) (data : Value) :
    Except RenderError String :=
  match registry.find? name with
  | none => .error (.unknown name)
  | some template =>
    match template.render data with
    | .error (spot, fault) => .error (.fault name spot fault)
    | .ok text => .ok text

/-- The registry as a renderer of documents. -/
def renderer (registry : Registry Template) : Renderer :=
  fun name data ↦ (registry.render name data).mapError RenderError.message

end Registry

end StepSequencer
