import StepSequencer.Json.Reader
import StepSequencer.Song.Basic

/-!
# Reading songs from JSON

`Song.ofValue` reads a song from a value, and `Song.ofJson` from a text. Every record may be an
object, whose members are visited in the order in which the value holds them and whose missing
fields are looked for afterwards, or an array of its fields in the order of their declaration,
where fields with a default may be left out at the end.

A channel comes in two layouts: an object with its steps and its attenuation, or a bare list of
steps, in which case the pattern holds the attenuation of its first two channels. In both a
null is a rest. A channel of neither layout is reported as a whole.

A `SchemaError` names the node it was found at by the keys and positions that lead there.
-/

set_option autoImplicit false
set_option relaxedAutoImplicit false

namespace StepSequencer

open Json (Value Mismatch)

/-! ### Errors with a path -/

/-- One step down into a value. -/
inductive PathStep where
  | key (name : String)
  | index (position : Nat)
deriving DecidableEq, Repr

/-- A mismatch, and the way from the root to the node it was found at. -/
structure SchemaError where
  path : List PathStep
  mismatch : Mismatch
deriving DecidableEq, Repr

namespace SchemaError

/-- The text of one step, behind a separator if it is a key. -/
def renderStep (separator : String) : PathStep → String
  | .key name => separator ++ name
  | .index position => "[" ++ Json.decimal position ++ "]"

/-- The text of a path: keys with points between, positions in brackets, a point for the root. -/
def renderPath : List PathStep → String
  | [] => "."
  | first :: rest => renderStep "" first ++ String.join (rest.map (renderStep "."))

/-- The path as reported: the root, and a member of the root named by a single point, are
reported as the song. -/
def pathText (error : SchemaError) : String :=
  let text := renderPath error.path
  if text = "." then "song" else text

/-- What is wrong at the node. -/
def detail (error : SchemaError) : String :=
  error.mismatch.message

/-- What is wrong, and where. -/
def message (error : SchemaError) : String :=
  error.detail ++ " (at " ++ error.pathText ++ ")"

end SchemaError

/-- The outcome of reading a value. -/
abbrev Decoded (α : Type) : Type :=
  Except SchemaError α

/-- A mismatch at the node itself. -/
def mismatched {α : Type} (m : Mismatch) : Decoded α :=
  .error ⟨[], m⟩

/-- The outcome of reading a node, seen from the node above it. -/
def below {α : Type} (step : PathStep) : Decoded α → Decoded α
  | .ok a => .ok a
  | .error e => .error ⟨step :: e.path, e.mismatch⟩

/-! ### Leaves and lists -/

/-- Reads an integer with bounds. -/
def decodeInteger (low high : Int) (wanted : String) (value : Value) : Decoded Int :=
  match value with
  | .number (.integer n) =>
    if low ≤ n ∧ n ≤ high then .ok n else mismatched (.outOfRange n wanted)
  | other => mismatched (.wrongType other.found wanted)

/-- Reads a byte. -/
def decodeByte (value : Value) : Decoded UInt8 :=
  (decodeInteger 0 255 "u8" value).map fun n ↦ UInt8.ofNat n.toNat

/-- Reads an instant. -/
def decodeInstant (value : Value) : Decoded Int64 :=
  (decodeInteger (-0x8000000000000000) 0x7fffffffffffffff "i64" value).map Int64.ofInt

/-- Reads a truth value. -/
def decodeBool (value : Value) : Decoded Bool :=
  match value with
  | .bool b => .ok b
  | other => mismatched (.wrongType other.found "a boolean")

/-- Reads a text. -/
def decodeString (value : Value) : Decoded String :=
  match value with
  | .string s => .ok s
  | other => mismatched (.wrongType other.found "a string")

/-- Reads a value that may be null. -/
def decodeOption {α : Type} (decode : Value → Decoded α) (value : Value) : Decoded (Option α) :=
  match value with
  | .null => .ok none
  | other => (decode other).map some

/-- Reads the elements from a position on. -/
def decodeElements {α : Type} (decode : Value → Decoded α) :
    Nat → List Value → Decoded (List α)
  | _, [] => .ok []
  | position, value :: rest => do
    let a ← below (.index position) (decode value)
    let others ← decodeElements decode (position + 1) rest
    return a :: others

/-- Reads a list. -/
def decodeList {α : Type} (decode : Value → Decoded α) (value : Value) : Decoded (List α) :=
  match value with
  | .array elements => decodeElements decode 0 elements
  | other => mismatched (.wrongType other.found "a sequence")

/-! ### Records -/

/-- The name of a record in messages, and its fields in the order of their declaration. -/
structure RecordShape where
  name : String
  fields : List String

/-- Visits the members of an object in turn. -/
def decodeMembers {δ : Type} (visit : δ → String → Value → Decoded δ) :
    δ → List (String × Value) → Decoded δ
  | draft, [] => .ok draft
  | draft, (key, value) :: rest => do
    let draft ← visit draft key value
    decodeMembers visit draft rest

/-- Reads a field of an object. -/
def fieldAt {α : Type} (key : String) (decode : Value → Decoded α) (value : Value) :
    Decoded α :=
  below (.key key) (decode value)

/-- The mismatch for a member that is no field of the record. -/
def unknownMember {α : Type} (shape : RecordShape) (key : String) : Decoded α :=
  below (.key key) (mismatched (.unknownField key shape.fields))

/-- A field that has to be given. -/
def required {α : Type} (name : String) : Option α → Decoded α
  | some a => .ok a
  | none => mismatched (.missingField name)

/-- Reads the field of an array at a position; without one the default counts, if there is
one. -/
def positional {α : Type} (shape : RecordShape) (elements : List Value) (position : Nat)
    (decode : Value → Decoded α) (default? : Option α) : Decoded α :=
  match elements[position]?, default? with
  | some value, _ => below (.index position) (decode value)
  | none, some a => .ok a
  | none, none =>
    mismatched (.wrongLength position
      ("struct " ++ shape.name ++ " with " ++ Json.decimal shape.fields.length ++ " elements"))

/-- Checks that an array has no more elements than the record has fields. -/
def noneLeft (shape : RecordShape) (elements : List Value) : Decoded Unit :=
  if elements.length ≤ shape.fields.length then .ok ()
  else mismatched (.wrongLength elements.length "fewer elements in array")

/-- Reads a record from an object or from an array of its fields. -/
def decodeRecord {α : Type} (shape : RecordShape)
    (ofMembers : List (String × Value) → Decoded α) (ofElements : List Value → Decoded α)
    (value : Value) : Decoded α :=
  match value with
  | .object members => ofMembers members
  | .array elements => do
    let a ← ofElements elements
    noneLeft shape elements
    return a
  | other => mismatched (.wrongType other.found ("struct " ++ shape.name))

/-! ### Steps and channels -/

namespace Step

/-- The shape of a step. -/
def shape : RecordShape :=
  ⟨"Step", ["sound", "note", "octave", "accent"]⟩

/-- Reads one member into a step. -/
def visit (step : Step) (key : String) (value : Value) : Decoded Step := do
  match key with
  | "sound" => return { step with sound := ← fieldAt key (decodeOption decodeByte) value }
  | "note" => return { step with note := ← fieldAt key (decodeOption decodeString) value }
  | "octave" => return { step with octave := ← fieldAt key (decodeOption decodeByte) value }
  | "accent" => return { step with accent := ← fieldAt key decodeBool value }
  | _ => unknownMember shape key

/-- Reads a step from an array of its fields. -/
def ofElements (elements : List Value) : Decoded Step := do
  let sound ← positional shape elements 0 (decodeOption decodeByte) (some none)
  let note ← positional shape elements 1 (decodeOption decodeString) (some none)
  let octave ← positional shape elements 2 (decodeOption decodeByte) (some none)
  let accent ← positional shape elements 3 decodeBool (some false)
  return ⟨sound, note, octave, accent⟩

/-- Reads a step. -/
def ofValue (value : Value) : Decoded Step :=
  decodeRecord shape (decodeMembers visit Step.rest) ofElements value

/-- Reads a list of steps, in which a null is a rest. -/
def listOfValue (value : Value) : Decoded (List Step) :=
  (decodeList (decodeOption ofValue) value).map fun steps ↦
    steps.map fun step ↦ step.getD Step.rest

end Step

/-- A channel in one of the two layouts. -/
inductive StoredChannel where
  | current (channel : Channel)
  | bare (steps : List Step)
deriving DecidableEq, Repr

namespace StoredChannel

/-- The shape of a channel object. -/
def shape : RecordShape :=
  ⟨"RawChannelObject", ["attenuate", "steps"]⟩

/-- The fields of a channel object read so far. -/
structure Draft where
  attenuate : Option Bool := none
  steps : Option (List Step) := none

/-- Reads one member of a channel object. -/
def Draft.visit (draft : Draft) (key : String) (value : Value) : Decoded Draft := do
  match key with
  | "attenuate" => return { draft with attenuate := some (← fieldAt key decodeBool value) }
  | "steps" => return { draft with steps := some (← fieldAt key Step.listOfValue value) }
  | _ => unknownMember shape key

/-- The channel of the fields read. -/
def Draft.finish (draft : Draft) : Decoded Channel := do
  let steps ← required "steps" draft.steps
  return ⟨draft.attenuate.getD false, steps⟩

/-- Reads a channel from the members of an object. -/
def ofMembers (members : List (String × Value)) : Decoded Channel := do
  let draft ← decodeMembers Draft.visit {} members
  draft.finish

/-- Reads a channel from an array of its fields. -/
def ofElements (elements : List Value) : Decoded Channel := do
  let attenuate ← positional shape elements 0 decodeBool (some false)
  let steps ← positional shape elements 1 Step.listOfValue none
  return ⟨attenuate, steps⟩

/-- Reads a channel object. -/
def objectOfValue (value : Value) : Decoded Channel :=
  decodeRecord shape ofMembers ofElements value

/-- Reads a channel in either layout, the object first. -/
def ofValue (value : Value) : Decoded StoredChannel :=
  match objectOfValue value, Step.listOfValue value with
  | .ok channel, _ => .ok (.current channel)
  | .error _, .ok steps => .ok (.bare steps)
  | .error _, .error _ => mismatched (.noLayout "RawChannel")

/-- The channel, given the attenuation that its pattern holds for it. -/
def toChannel (attenuate : Option Bool) : StoredChannel → Channel
  | .current channel => channel
  | .bare steps => ⟨attenuate.getD false, steps⟩

end StoredChannel

/-! ### Patterns, hats and what is known about a song -/

namespace Pattern

/-- The shape of a pattern. -/
def shape : RecordShape :=
  ⟨"RawPattern", ["steps", "channels", "channel1attenuation", "channel2attenuation"]⟩

/-- The fields of a pattern read so far. -/
structure Draft where
  steps : Option UInt8 := none
  channels : Option (List StoredChannel) := none
  attenuation1 : Option Bool := none
  attenuation2 : Option Bool := none

/-- Reads one member of a pattern. -/
def Draft.visit (draft : Draft) (key : String) (value : Value) : Decoded Draft := do
  match key with
  | "steps" => return { draft with steps := some (← fieldAt key decodeByte value) }
  | "channels" =>
    return { draft with channels := some (← fieldAt key (decodeList StoredChannel.ofValue) value) }
  | "channel1attenuation" =>
    return { draft with attenuation1 := ← fieldAt key (decodeOption decodeBool) value }
  | "channel2attenuation" =>
    return { draft with attenuation2 := ← fieldAt key (decodeOption decodeBool) value }
  | _ => unknownMember shape key

/-- The channels with the attenuation that the pattern holds for the first two. -/
def attenuated (attenuation1 attenuation2 : Option Bool) :
    List StoredChannel → List Channel
  | [] => []
  | [first] => [first.toChannel attenuation1]
  | first :: second :: others =>
    first.toChannel attenuation1 :: second.toChannel attenuation2 ::
      others.map (StoredChannel.toChannel none)

/-- The pattern of the fields read. -/
def Draft.finish (draft : Draft) : Decoded Pattern := do
  let steps ← required "steps" draft.steps
  let channels ← required "channels" draft.channels
  return ⟨steps, attenuated draft.attenuation1 draft.attenuation2 channels⟩

/-- Reads a pattern from the members of an object. -/
def ofMembers (members : List (String × Value)) : Decoded Pattern := do
  let draft ← decodeMembers Draft.visit {} members
  draft.finish

/-- Reads a pattern from an array of its fields. -/
def ofElements (elements : List Value) : Decoded Pattern := do
  let steps ← positional shape elements 0 decodeByte none
  let channels ← positional shape elements 1 (decodeList StoredChannel.ofValue) none
  let attenuation1 ← positional shape elements 2 (decodeOption decodeBool) (some none)
  let attenuation2 ← positional shape elements 3 (decodeOption decodeBool) (some none)
  return ⟨steps, attenuated attenuation1 attenuation2 channels⟩

/-- Reads a pattern. -/
def ofValue (value : Value) : Decoded Pattern :=
  decodeRecord shape ofMembers ofElements value

end Pattern

namespace Hats

/-- The shape of the hats. -/
def shape : RecordShape :=
  ⟨"HatConfig", ["start", "volume", "pitch", "sound", "pattern"]⟩

/-- The fields of the hats read so far; all but the pattern have a default. -/
structure Draft where
  hats : Hats := {}
  pattern : Option (List UInt8) := none

/-- Reads one member of the hats. -/
def Draft.visit (draft : Draft) (key : String) (value : Value) : Decoded Draft := do
  match key with
  | "start" =>
    return { draft with hats := { draft.hats with start := ← fieldAt key decodeByte value } }
  | "volume" =>
    return { draft with hats := { draft.hats with volume := ← fieldAt key decodeByte value } }
  | "pitch" =>
    return { draft with hats := { draft.hats with pitch := ← fieldAt key decodeByte value } }
  | "sound" =>
    return { draft with hats := { draft.hats with sound := ← fieldAt key decodeByte value } }
  | "pattern" =>
    return { draft with pattern := some (← fieldAt key (decodeList decodeByte) value) }
  | _ => unknownMember shape key

/-- The hats of the fields read. -/
def Draft.finish (draft : Draft) : Decoded Hats := do
  let pattern ← required "pattern" draft.pattern
  return { draft.hats with pattern := pattern }

/-- Reads the hats from the members of an object. -/
def ofMembers (members : List (String × Value)) : Decoded Hats := do
  let draft ← decodeMembers Draft.visit {} members
  draft.finish

/-- Reads the hats from an array of their fields. -/
def ofElements (elements : List Value) : Decoded Hats := do
  let start ← positional shape elements 0 decodeByte (some 255)
  let volume ← positional shape elements 1 decodeByte (some 5)
  let pitch ← positional shape elements 2 decodeByte (some 0)
  let sound ← positional shape elements 3 decodeByte (some 8)
  let pattern ← positional shape elements 4 (decodeList decodeByte) none
  return ⟨start, volume, pitch, sound, pattern⟩

/-- Reads the hats. -/
def ofValue (value : Value) : Decoded Hats :=
  decodeRecord shape ofMembers ofElements value

end Hats

namespace Meta

/-- The shape of what is known about a song. -/
def shape : RecordShape :=
  ⟨"RawMeta", ["title", "author", "created", "modified", "tempo", "tuning"]⟩

/-- The fields read so far. -/
structure Draft where
  title : String := ""
  author : String := ""
  created : Option Int64 := none
  modified : Option Int64 := none
  tempo : UInt8 := defaultTempo
  tuning : UInt8 := 0

/-- Reads one member. -/
def Draft.visit (draft : Draft) (key : String) (value : Value) : Decoded Draft := do
  match key with
  | "title" => return { draft with title := ← fieldAt key decodeString value }
  | "author" => return { draft with author := ← fieldAt key decodeString value }
  | "created" => return { draft with created := some (← fieldAt key decodeInstant value) }
  | "modified" =>
    return { draft with modified := ← fieldAt key (decodeOption decodeInstant) value }
  | "tempo" => return { draft with tempo := ← fieldAt key decodeByte value }
  | "tuning" => return { draft with tuning := ← fieldAt key decodeByte value }
  | _ => unknownMember shape key

/-- What is known by the fields read; a song never modified was modified when created. -/
def Draft.finish (draft : Draft) : Decoded Meta := do
  let created ← required "created" draft.created
  return ⟨draft.title, draft.author, created, draft.modified.getD created, draft.tempo,
    draft.tuning⟩

/-- Reads what is known from the members of an object. -/
def ofMembers (members : List (String × Value)) : Decoded Meta := do
  let draft ← decodeMembers Draft.visit {} members
  draft.finish

/-- Reads what is known from an array of the fields. -/
def ofElements (elements : List Value) : Decoded Meta := do
  let title ← positional shape elements 0 decodeString (some "")
  let author ← positional shape elements 1 decodeString (some "")
  let created ← positional shape elements 2 decodeInstant none
  let modified ← positional shape elements 3 (decodeOption decodeInstant) (some none)
  let tempo ← positional shape elements 4 decodeByte (some defaultTempo)
  let tuning ← positional shape elements 5 decodeByte (some 0)
  return ⟨title, author, created, modified.getD created, tempo, tuning⟩

/-- Reads what is known about a song. -/
def ofValue (value : Value) : Decoded Meta :=
  decodeRecord shape ofMembers ofElements value

end Meta

/-! ### Songs -/

/-- Why a text holds no song. -/
inductive SongError where
  | notJson (text : String) (fault : Json.Fault)
  | schema (error : SchemaError)
deriving DecidableEq, Repr

/-- The message for a text that holds no song. -/
def SongError.message : SongError → String
  | .notJson text fault => "JSON parse error: " ++ fault.message text
  | .schema error => "schema error: " ++ error.message

/-- What the message ends in: the fault of the text or the error of the value. -/
def SongError.reason : SongError → String
  | .notJson text fault => fault.message text
  | .schema error => error.message

namespace Song

/-- The shape of a song. -/
def shape : RecordShape :=
  ⟨"Song", ["id", "meta", "patterns", "hats"]⟩

/-- The fields of a song read so far. -/
structure Draft where
  id : Option String := none
  info : Option Meta := none
  patterns : Option (List Pattern) := none
  hats : Option Hats := none

/-- Reads one member of a song. -/
def Draft.visit (draft : Draft) (key : String) (value : Value) : Decoded Draft := do
  match key with
  | "id" => return { draft with id := ← fieldAt key (decodeOption decodeString) value }
  | "meta" => return { draft with info := some (← fieldAt key Meta.ofValue value) }
  | "patterns" =>
    return { draft with patterns := some (← fieldAt key (decodeList Pattern.ofValue) value) }
  | "hats" => return { draft with hats := some (← fieldAt key Hats.ofValue value) }
  | _ => unknownMember shape key

/-- The song of the fields read. -/
def Draft.finish (draft : Draft) : Decoded Song := do
  let info ← required "meta" draft.info
  let patterns ← required "patterns" draft.patterns
  let hats ← required "hats" draft.hats
  return ⟨draft.id, info, patterns, hats⟩

/-- Reads a song from the members of an object. -/
def ofMembers (members : List (String × Value)) : Decoded Song := do
  let draft ← decodeMembers Draft.visit {} members
  draft.finish

/-- Reads a song from an array of its fields. -/
def ofElements (elements : List Value) : Decoded Song := do
  let id ← positional shape elements 0 (decodeOption decodeString) (some none)
  let info ← positional shape elements 1 Meta.ofValue none
  let patterns ← positional shape elements 2 (decodeList Pattern.ofValue) none
  let hats ← positional shape elements 3 Hats.ofValue none
  return ⟨id, info, patterns, hats⟩

/-- Reads a song from a value. -/
def ofValue (value : Value) : Decoded Song :=
  decodeRecord shape ofMembers ofElements value

/-- Reads a song from a JSON text. -/
def ofJson (text : String) : Except SongError Song :=
  match Json.parse text with
  | .error fault => .error (.notJson text fault)
  | .ok value =>
    match ofValue value with
    | .error error => .error (.schema error)
    | .ok song => .ok song

end Song

end StepSequencer
