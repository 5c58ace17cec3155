import StepSequencer.Assembly.Arrangement
import StepSequencer.Assembly.HatBits
import StepSequencer.Song.Json

/-!
# Documents

A document holds all that a template may name: the fragments of the patterns, the hats, and what
is known about the song, with the instant of its creation as text. Only a song that passes is
compiled. `assemble` hands the document to a renderer under the name of a template.
-/

set_option autoImplicit false
set_option relaxedAutoImplicit false

namespace StepSequencer

open Json (Value)

/-- A way to write an instant. -/
abbrev Formatter : Type :=
  Int64 → String

/-- A way to render data with the template of a name, or the reason why not. -/
abbrev Renderer : Type :=
  String → Value → Except String String

/-- All that a template may name. -/
structure Document where
  id : Option String
  title : String
  author : String
  created : String
  modified : Int64
  tempo : UInt8
  tuning : UInt8
  fragments : Fragments
  hatStart : UInt8
  hatVolume : UInt8
  hatPitch : UInt8
  hatSound : UInt8
  hatPattern : String
deriving DecidableEq, Repr

/-- The fragments as an object. -/
def Fragments.encode (fragments : Fragments) : Value :=
  .object [("patterns", .string fragments.patterns),
    ("patternArrayH", .string fragments.highTable),
    ("patternArrayL", .string fragments.lowTable),
    ("channel1sequence", .string fragments.sequence1),
    ("channel2sequence", .string fragments.sequence2)]

namespace Document

/-- The document of a song and the fragments of its patterns. -/
def ofSong (formatter : Formatter) (song : Song) (fragments : Fragments) : Document where
  id := song.id
  title := song.info.title
  author := song.info.author
  created := formatter song.info.created
  modified := song.info.modified
  tempo := song.info.tempo
  tuning := song.info.tuning
  fragments := fragments
  hatStart := song.hats.start
  hatVolume := song.hats.volume
  hatPitch := song.hats.pitch
  hatSound := song.hats.sound
  hatPattern := hatText song.hats.pattern

/-- What is known about the song as an object. -/
def encodeInfo (document : Document) : Value :=
  .object [("title", .string document.title), ("author", .string document.author),
    ("created", .string document.created), ("modified", .ofInt document.modified.toInt),
    ("tempo", byteValue document.tempo), ("tuning", byteValue document.tuning)]

/-- The hats as an object. -/
def encodeHats (document : Document) : Value :=
  .object [("start", byteValue document.hatStart), ("volume", byteValue document.hatVolume),
    ("pitch", byteValue document.hatPitch), ("sound", byteValue document.hatSound),
    ("pattern", .string document.hatPattern)]

/-- The document as an object. -/
def encode (document : Document) : Value :=
  .object (optionalMember "id" .string document.id ++
    [("meta", document.encodeInfo), ("patterns", document.fragments.encode),
      ("hats", document.encodeHats)])

end Document

/-- The document of a song that passes and compiles. -/
def buildDocument (encoder : Encoder) (formatter : Formatter) (song : Song) :
    Except AssemblyError Document :=
  match song.validate.toResult with
  | .error faults => .error (.invalidSong faults)
  | .ok _ =>
    (compilePatterns encoder song.info.tuning song.patterns).map
      (Document.ofSong formatter song)

/-- The name of the template that documents are rendered with. -/
def defaultTemplate : String := "asm"

/-- The rendered document of a song. -/
def assemble (encoder : Encoder) (formatter : Formatter) (renderer : Renderer)
    (template : String) (song : Song) : Except AssemblyError String :=
  match buildDocument encoder formatter song with
  | .error e => .error e
  | .ok document =>
    match renderer template document.encode.canonical with
    | .error reason => .error (.render template reason)
    | .ok text => .ok text

end StepSequencer
