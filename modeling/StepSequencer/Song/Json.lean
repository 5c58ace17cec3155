import StepSequencer.Json.Printer
import StepSequencer.Song.Basic

/-!
# Songs as JSON

A song is written as an object with its fields in the order of their declaration. What a step
does not have is left out, and so is the identifier of a song that has none.
-/

set_option autoImplicit false
set_option relaxedAutoImplicit false

namespace StepSequencer

open Json (Value)

/-- A byte as a value. -/
def byteValue (n : UInt8) : Value :=
  .ofInt n.toNat

/-- The member of a field that may be absent. -/
def optionalMember {α : Type} (key : String) (encode : α → Value) :
    Option α → List (String × Value)
  | none => []
  | some a => [(key, encode a)]

/-- A step as an object. -/
def Step.encode (step : Step) : Value :=
  .object (optionalMember "sound" byteValue step.sound ++
    optionalMember "note" .string step.note ++
    optionalMember "octave" byteValue step.octave ++
    if step.accent then [("accent", .bool true)] else [])

/-- A channel as an object. -/
def Channel.encode (channel : Channel) : Value :=
  .object [("attenuate", .bool channel.attenuate),
    ("steps", .array (channel.steps.map Step.encode))]

/-- A pattern as an object. -/
def Pattern.encode (pattern : Pattern) : Value :=
  .object [("steps", byteValue pattern.steps),
    ("channels", .array (pattern.channels.map Channel.encode))]

/-- The hats as an object. -/
def Hats.encode (hats : Hats) : Value :=
  .object [("start", byteValue hats.start), ("volume", byteValue hats.volume),
    ("pitch", byteValue hats.pitch), ("sound", byteValue hats.sound),
    ("pattern", .array (hats.pattern.map byteValue))]

/-- What is known about a song as an object. -/
def Meta.encode (info : Meta) : Value :=
  .object [("title", .string info.title), ("author", .string info.author),
    ("created", .ofInt info.created.toInt), ("modified", .ofInt info.modified.toInt),
    ("tempo", byteValue info.tempo), ("tuning", byteValue info.tuning)]

namespace Song

/-- A song as an object with its fields in the order of their declaration. -/
def encode (song : Song) : Value :=
  .object (optionalMember "id" .string song.id ++
    [("meta", song.info.encode), ("patterns", .array (song.patterns.map Pattern.encode)),
      ("hats", song.hats.encode)])

/-- A song as a value with the members of all objects in increasing order of the key. -/
def toValue (song : Song) : Value :=
  song.encode.canonical

/-- The JSON text of a song, without blanks. -/
def toJson (song : Song) : String :=
  song.encode.compact

/-- The JSON text of a song, on indented lines. -/
def toJsonPretty (song : Song) : String :=
  song.encode.pretty

end Song

end StepSequencer
