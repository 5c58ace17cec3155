import StepSequencer.Proofs.Json.RoundTrip
import StepSequencer.Song.Json
import StepSequencer.Song.Schema

/-!
# Songs are read as they are written

Writing a song and reading it again gives the same song, through a value and through a text of
either layout. The reader sees the members of an object in increasing order of the key; the
lemmas `canonical_encode` say what this order is for every record, and the lemmas
`ofValue_canonical_encode` follow the reader through it. Fields that were left out because they
have no value are restored by the defaults the reader starts from.

Channels, patterns and songs are first read with any value in place of their steps, channels and
patterns (`ofValue_object`, `ofValue_members`), because these can be written in more than one way.
-/

set_option autoImplicit false
set_option relaxedAutoImplicit false

namespace StepSequencer

open Json (Value)

/-! ### Leaves and lists -/

theorem decodeByte_byteValue (n : UInt8) : decodeByte (byteValue n) = .ok n := by
  have hn := n.toNat_lt
  rw [decodeByte, byteValue, Value.ofInt, decodeInteger, if_pos (by omega)]
  simp [Except.map]

theorem decodeInstant_ofInt (instant : Int64) :
    decodeInstant (.ofInt instant.toInt) = .ok instant := by
  have hlow := instant.le_toInt
  have hhigh := instant.toInt_lt
  rw [decodeInstant, Value.ofInt, decodeInteger, if_pos (by omega)]
  simp [Except.map]

theorem decodeOption_of_ne_null {α : Type} {decode : Value → Decoded α} {value : Value} {a : α}
    (h : decode value = .ok a) (hnull : value ≠ .null) :
    decodeOption decode value = .ok (some a) := by
  rw [decodeOption, h]
  · rfl
  · exact hnull

theorem fieldAt_of_ok {α : Type} {decode : Value → Decoded α} {value : Value} {a : α}
    (key : String) (h : decode value = .ok a) : fieldAt key decode value = .ok a := by
  rw [fieldAt, h, below]

/-- A list of encoded items is read back if each item is. -/
theorem decodeElements_map {α β : Type} {decode : Value → Decoded β} {encode : α → Value}
    {result : α → β} {list : List α} (h : ∀ a ∈ list, decode (encode a) = .ok (result a))
    (position : Nat) :
    decodeElements decode position (list.map encode) = .ok (list.map result) := by
  induction list generalizing position with
  | nil => rfl
  | cons a rest ih =>
    have hrest := ih (fun b hb ↦ h b (List.mem_cons_of_mem _ hb)) (position + 1)
    rw [List.map_cons, decodeElements, h a List.mem_cons_self, hrest]
    rfl

/-- A list is read element by element. -/
theorem decodeList_map {α β : Type} {decode : Value → Decoded β} {encode : α → Value}
    {result : α → β} {list : List α} (h : ∀ a ∈ list, decode (encode a) = .ok (result a)) :
    decodeList decode (.array (list.map encode)) = .ok (list.map result) :=
  decodeElements_map h 0

/-- A member that may be absent is visited if it is there. -/
theorem decodeMembers_optionalMember {δ α : Type} {visit : δ → String → Value → Decoded δ}
    {key : String} {encode : α → Value} (set : Option α → δ)
    (h : ∀ a, visit (set none) key (encode a) = .ok (set (some a))) (a : Option α)
    (rest : List (String × Value)) :
    decodeMembers visit (set none) (optionalMember key encode a ++ rest) =
      decodeMembers visit (set a) rest := by
  cases a with
  | none => rfl
  | some a =>
    rw [optionalMember, List.singleton_append, decodeMembers, h]
    rfl

/-! ### Canonical forms -/

/-- An array is in its canonical form if its elements are. -/
theorem canonical_array_map {α : Type} (encode : α → Value) (list : List α) :
    (Value.array (list.map encode)).canonical =
      .array (list.map fun a ↦ (encode a).canonical) := by
  have hall : ∀ elements : List Value,
      Json.canonicalAll elements = elements.map Value.canonical := by
    intro elements
    induction elements with
    | nil => rfl
    | cons value rest ih => rw [Json.canonicalAll, ih, List.map_cons]
  rw [Value.canonical, hall, List.map_map]
  rfl

theorem canonical_byteValue (n : UInt8) : (byteValue n).canonical = byteValue n :=
  rfl

theorem Step.canonical_encode (step : Step) : step.encode.canonical =
    .object ((if step.accent then [("accent", .bool true)] else []) ++
      (optionalMember "note" .string step.note ++
        (optionalMember "octave" byteValue step.octave ++
          (optionalMember "sound" byteValue step.sound ++ [])))) := by
  obtain ⟨sound, note, octave, accent⟩ := step
  cases sound <;> cases note <;> cases octave <;> cases accent <;>
    simp +decide [encode, optionalMember, Value.canonical, Json.canonicalMembers, Json.sortMembers,
      Json.insertMember, canonical_byteValue]

theorem Channel.canonical_object (attenuate : Bool) (steps : Value) :
    (Value.object [("attenuate", .bool attenuate), ("steps", steps)]).canonical =
      .object [("attenuate", .bool attenuate), ("steps", steps.canonical)] := by
  simp +decide [Value.canonical, Json.canonicalMembers, Json.sortMembers, Json.insertMember]

theorem Channel.canonical_encode (channel : Channel) : channel.encode.canonical =
    .object [("attenuate", .bool channel.attenuate),
      ("steps", .array (channel.steps.map fun step ↦ step.encode.canonical))] := by
  rw [← canonical_array_map]
  exact canonical_object channel.attenuate _

/-- A truth value that may be null. -/
def flagValue : Option Bool → Value
  | none => .null
  | some b => .bool b

/-- The members of a pattern in increasing order of the key, with some value for its channels; those
for the attenuation may be absent. -/
def Pattern.members (attenuation1 attenuation2 : Option (Option Bool)) (channels : Value)
    (steps : UInt8) : List (String × Value) :=
  optionalMember "channel1attenuation" flagValue attenuation1 ++
    (optionalMember "channel2attenuation" flagValue attenuation2 ++
      [("channels", channels), ("steps", byteValue steps)])

theorem Pattern.canonical_object (attenuation1 attenuation2 : Option (Option Bool))
    (channels : Value) (steps : UInt8) :
    (Value.object ([("steps", byteValue steps), ("channels", channels)] ++
      optionalMember "channel1attenuation" flagValue attenuation1 ++
        optionalMember "channel2attenuation" flagValue attenuation2)).canonical =
      .object (members attenuation1 attenuation2 channels.canonical steps) := by
  have hflag : ∀ flag, (flagValue flag).canonical = flagValue flag := by
    intro flag
    cases flag <;> rfl
  cases attenuation1 <;> cases attenuation2 <;>
    simp +decide [members, optionalMember, Value.canonical, Json.canonicalMembers,
      Json.sortMembers, Json.insertMember, canonical_byteValue, hflag]

theorem Pattern.canonical_encode (pattern : Pattern) : pattern.encode.canonical =
    .object (members none none
      (.array (pattern.channels.map fun channel ↦ channel.encode.canonical)) pattern.steps) := by
  rw [← canonical_array_map]
  exact canonical_object none none _ pattern.steps

theorem Hats.canonical_encode (hats : Hats) : hats.encode.canonical =
    .object [("pattern", .array (hats.pattern.map byteValue)), ("pitch", byteValue hats.pitch),
      ("sound", byteValue hats.sound), ("start", byteValue hats.start),
      ("volume", byteValue hats.volume)] := by
  have hpattern := canonical_array_map byteValue hats.pattern
  simp only [canonical_byteValue] at hpattern
  rw [← hpattern]
  simp +decide [encode, Value.canonical, Json.canonicalMembers, Json.sortMembers, Json.insertMember,
    canonical_byteValue]

theorem Meta.canonical_encode (info : Meta) : info.encode.canonical =
    .object [("author", .string info.author), ("created", .ofInt info.created.toInt),
      ("modified", .ofInt info.modified.toInt), ("tempo", byteValue info.tempo),
      ("title", .string info.title), ("tuning", byteValue info.tuning)] := by
  simp +decide [encode, Value.canonical, Json.canonicalMembers, Json.sortMembers, Json.insertMember,
    canonical_byteValue, Value.ofInt]

/-- The members of a song in increasing order of the key, with some value for its patterns. -/
def Song.members (song : Song) (patterns : Value) : List (String × Value) :=
  ("hats", song.hats.encode.canonical) :: (optionalMember "id" .string song.id ++
    [("meta", song.info.encode.canonical), ("patterns", patterns)])

theorem Song.canonical_object (song : Song) (patterns : Value) :
    (Value.object (optionalMember "id" .string song.id ++
      [("meta", song.info.encode), ("patterns", patterns), ("hats", song.hats.encode)])).canonical =
      .object (song.members patterns.canonical) := by
  obtain ⟨id, info, others, hats⟩ := song
  cases id <;>
    simp +decide [members, optionalMember, Value.canonical, Json.canonicalMembers,
      Json.sortMembers, Json.insertMember]

theorem Song.canonical_encode (song : Song) : song.encode.canonical =
    .object (song.members
      (.array (song.patterns.map fun pattern ↦ pattern.encode.canonical))) := by
  rw [← canonical_array_map]
  exact song.canonical_object _

/-! ### Records read back -/

/-- A step is read back from its object. -/
theorem Step.ofValue_canonical_encode (step : Step) :
    Step.ofValue step.encode.canonical = .ok step := by
  have hbyte : ∀ (key : String) (n : UInt8),
      fieldAt key (decodeOption decodeByte) (byteValue n) = .ok (some n) := fun key n ↦
    fieldAt_of_ok key (decodeOption_of_ne_null (decodeByte_byteValue n) (by simp [byteValue,
      Value.ofInt]))
  rw [canonical_encode, ofValue, decodeRecord]
  calc _ = decodeMembers visit { accent := step.accent } _ := by
        cases step.accent <;> rfl
    _ = decodeMembers visit { note := step.note, accent := step.accent } _ :=
      decodeMembers_optionalMember (fun note ↦ Step.mk none note none step.accent) (fun _ ↦ rfl)
        step.note _
    _ = decodeMembers visit
        { note := step.note, octave := step.octave, accent := step.accent } _ :=
      decodeMembers_optionalMember (fun octave ↦ Step.mk none step.note octave step.accent)
        (fun n ↦ by simp only [visit, hbyte]; rfl) step.octave _
    _ = decodeMembers visit step [] :=
      decodeMembers_optionalMember (fun sound ↦ Step.mk sound step.note step.octave step.accent)
        (fun n ↦ by simp only [visit, hbyte]; rfl) step.sound []
    _ = .ok step := rfl

theorem Step.listOfValue_map (steps : List Step) :
    Step.listOfValue (.array (steps.map fun step ↦ step.encode.canonical)) = .ok steps := by
  have hstep : ∀ step ∈ steps,
      decodeOption Step.ofValue step.encode.canonical = .ok (some step) := by
    intro step _
    refine decodeOption_of_ne_null step.ofValue_canonical_encode ?_
    rw [canonical_encode]
    simp
  rw [listOfValue, decodeList_map hstep]
  simp [Except.map, Function.comp_def]

/-- An object with a flag and steps is a channel of the current layout. -/
theorem StoredChannel.ofValue_object (attenuate : Bool) {value : Value} {steps : List Step}
    (h : Step.listOfValue value = .ok steps) :
    StoredChannel.ofValue (.object [("attenuate", .bool attenuate), ("steps", value)]) =
      .ok (.current ⟨attenuate, steps⟩) := by
  have hobject : objectOfValue (.object [("attenuate", .bool attenuate), ("steps", value)]) =
      .ok ⟨attenuate, steps⟩ := by
    rw [objectOfValue, decodeRecord, ofMembers]
    simp only [decodeMembers, Draft.visit, fieldAt_of_ok "steps" h]
    rfl
  rw [ofValue, hobject]

theorem StoredChannel.ofValue_canonical_encode (channel : Channel) :
    StoredChannel.ofValue channel.encode.canonical = .ok (.current channel) := by
  rw [Channel.canonical_encode]
  exact ofValue_object channel.attenuate (Step.listOfValue_map channel.steps)

/-- Channels of the current layout have their own attenuation. -/
theorem Pattern.attenuated_current (channels : List Channel) :
    attenuated none none (channels.map StoredChannel.current) = channels := by
  match channels with
  | [] => rfl
  | [_] => rfl
  | first :: second :: others => simp [attenuated, StoredChannel.toChannel, Function.comp_def]

theorem decodeOption_flagValue (flag : Option Bool) :
    decodeOption decodeBool (flagValue flag) = .ok flag := by
  cases flag <;> rfl

/-- A pattern is read with what its members say about attenuation, if they say anything. -/
theorem Pattern.ofValue_members (attenuation1 attenuation2 : Option (Option Bool))
    {value : Value} {channels : List StoredChannel}
    (h : decodeList StoredChannel.ofValue value = .ok channels) (steps : UInt8) :
    Pattern.ofValue (.object (members attenuation1 attenuation2 value steps)) =
      .ok ⟨steps, attenuated attenuation1.join attenuation2.join channels⟩ := by
  have hflag : ∀ (key : String) (flag : Option Bool),
      fieldAt key (decodeOption decodeBool) (flagValue flag) = .ok flag := fun key flag ↦
    fieldAt_of_ok key (decodeOption_flagValue flag)
  have hdraft : decodeMembers Draft.visit {} (members attenuation1 attenuation2 value steps) =
      .ok ⟨some steps, some channels, attenuation1.join, attenuation2.join⟩ := by
    calc _ = decodeMembers Draft.visit ⟨none, none, attenuation1.join, none⟩ _ :=
          decodeMembers_optionalMember (fun flag ↦ Draft.mk none none flag.join none)
            (fun flag ↦ by simp only [Draft.visit, hflag]; rfl) attenuation1 _
      _ = decodeMembers Draft.visit ⟨none, none, attenuation1.join, attenuation2.join⟩ _ :=
          decodeMembers_optionalMember (fun flag ↦ Draft.mk none none attenuation1.join flag.join)
            (fun flag ↦ by simp only [Draft.visit, hflag]; rfl) attenuation2 _
      _ = _ := by
          simp only [decodeMembers, Draft.visit, fieldAt_of_ok "channels" h,
            fieldAt_of_ok "steps" (decodeByte_byteValue steps)]
          rfl
  rw [ofValue, decodeRecord, ofMembers, hdraft]
  rfl

/-- A pattern is read back from its object. -/
theorem Pattern.ofValue_canonical_encode (pattern : Pattern) :
    Pattern.ofValue pattern.encode.canonical = .ok pattern := by
  have hchannels := decodeList_map fun channel (_ : channel ∈ pattern.channels) ↦
    StoredChannel.ofValue_canonical_encode channel
  rw [canonical_encode, ofValue_members none none hchannels]
  exact congrArg (fun channels ↦ Except.ok (Pattern.mk pattern.steps channels))
    (attenuated_current pattern.channels)

/-- Hats are read back from their object. -/
theorem Hats.ofValue_canonical_encode (hats : Hats) :
    Hats.ofValue hats.encode.canonical = .ok hats := by
  have hpattern := decodeList_map fun n (_ : n ∈ hats.pattern) ↦ decodeByte_byteValue n
  rw [List.map_id'] at hpattern
  rw [canonical_encode, ofValue, decodeRecord, ofMembers]
  simp only [decodeMembers, Draft.visit, fieldAt_of_ok _ (decodeByte_byteValue _),
    fieldAt_of_ok _ hpattern]
  rfl

/-- What is known about a song is read back from its object. -/
theorem Meta.ofValue_canonical_encode (info : Meta) :
    Meta.ofValue info.encode.canonical = .ok info := by
  have hmodified : decodeOption decodeInstant (.ofInt info.modified.toInt) =
      .ok (some info.modified) :=
    decodeOption_of_ne_null (decodeInstant_ofInt info.modified) (by simp [Value.ofInt])
  rw [canonical_encode, ofValue, decodeRecord, ofMembers]
  simp only [decodeMembers, Draft.visit, fieldAt_of_ok _ (decodeByte_byteValue _),
    fieldAt_of_ok _ (decodeInstant_ofInt _), fieldAt_of_ok _ hmodified]
  rfl

/-- A song is read with the patterns that the value for them is read as. -/
theorem Song.ofValue_members {song : Song} {value : Value}
    (h : decodeList Pattern.ofValue value = .ok song.patterns) :
    Song.ofValue (.object (song.members value)) = .ok song := by
  rw [ofValue, decodeRecord, ofMembers, members]
  cases hid : song.id <;>
  · simp only [optionalMember, List.nil_append, List.singleton_append, decodeMembers, Draft.visit,
      fieldAt_of_ok _ song.hats.ofValue_canonical_encode,
      fieldAt_of_ok _ song.info.ofValue_canonical_encode, fieldAt_of_ok _ h]
    change Except.ok (Song.mk _ song.info song.patterns song.hats) = .ok song
    rw [← hid]

/-- A song is read back from its object. -/
theorem Song.ofValue_canonical_encode (song : Song) :
    Song.ofValue song.encode.canonical = .ok song := by
  have hpatterns := decodeList_map fun pattern (_ : pattern ∈ song.patterns) ↦
    Pattern.ofValue_canonical_encode pattern
  rw [List.map_id'] at hpatterns
  rw [canonical_encode]
  exact ofValue_members hpatterns

/-! ### Songs can be written -/

@[simp] theorem within_bool (b : Bool) (depth : Nat) : (Value.bool b).Within depth :=
  trivial

@[simp] theorem within_string (s : String) (depth : Nat) : (Value.string s).Within depth :=
  trivial

@[simp] theorem within_byteValue (n : UInt8) (depth : Nat) : (byteValue n).Within depth := by
  have hn := n.toNat_lt
  rw [byteValue, Value.ofInt, Value.Within]
  omega

@[simp] theorem within_instant (instant : Int64) (depth : Nat) :
    (Value.ofInt instant.toInt).Within depth := by
  have hlow := instant.le_toInt
  have hhigh := instant.toInt_lt
  rw [Value.ofInt, Value.Within]
  omega

theorem within_array_map {α : Type} {encode : α → Value} {depth : Nat}
    (h : ∀ a, (encode a).Within depth) (list : List α) :
    (Value.array (list.map encode)).Within (depth + 1) := by
  refine ⟨Nat.succ_pos depth, Json.elementsWithin_iff.mpr fun value hvalue ↦ ?_⟩
  obtain ⟨a, -, rfl⟩ := List.mem_map.mp hvalue
  exact h a

theorem within_object {members : List (String × Value)} {depth : Nat}
    (h : ∀ member ∈ members, member.2.Within depth) :
    (Value.object members).Within (depth + 1) :=
  ⟨Nat.succ_pos depth, Json.membersWithin_iff.mpr h⟩

theorem within_optionalMember {α : Type} {encode : α → Value} {depth : Nat}
    (h : ∀ a, (encode a).Within depth) (key : String) (a : Option α) :
    ∀ member ∈ optionalMember key encode a, member.2.Within depth := by
  intro member hmember
  cases a with
  | none => cases hmember
  | some a =>
    obtain rfl := List.mem_singleton.mp hmember
    exact h a

theorem Step.within_encode (step : Step) (depth : Nat) : step.encode.Within (depth + 1) := by
  refine within_object fun member hmember ↦ ?_
  simp only [List.mem_append] at hmember
  rcases hmember with ((hsound | hnote) | hoctave) | haccent
  · exact within_optionalMember (fun n ↦ within_byteValue n depth) _ _ member hsound
  · exact within_optionalMember (fun s ↦ within_string s depth) _ _ member hnote
  · exact within_optionalMember (fun n ↦ within_byteValue n depth) _ _ member hoctave
  · split at haccent
    case isTrue =>
      obtain rfl := List.mem_singleton.mp haccent
      exact within_bool true depth
    case isFalse => cases haccent

theorem Channel.within_encode (channel : Channel) (depth : Nat) :
    channel.encode.Within (depth + 3) := by
  have hsteps := within_array_map (fun step : Step ↦ step.within_encode depth) channel.steps
  exact within_object (by simp [hsteps])

theorem Pattern.within_encode (pattern : Pattern) (depth : Nat) :
    pattern.encode.Within (depth + 5) := by
  have hchannels := within_array_map (fun channel : Channel ↦ channel.within_encode depth)
    pattern.channels
  exact within_object (by simp [hchannels])

theorem Hats.within_encode (hats : Hats) (depth : Nat) : hats.encode.Within (depth + 2) := by
  have hpattern := within_array_map (fun n : UInt8 ↦ within_byteValue n depth) hats.pattern
  exact within_object (by simp [hpattern])

theorem Meta.within_encode (info : Meta) (depth : Nat) : info.encode.Within (depth + 1) :=
  within_object (by simp)

theorem Song.within_object {song : Song} {patterns : Value} {depth : Nat}
    (h : patterns.Within (depth + 6)) :
    (Value.object (optionalMember "id" .string song.id ++
      [("meta", song.info.encode), ("patterns", patterns), ("hats", song.hats.encode)])).Within
      (depth + 7) := by
  refine StepSequencer.within_object fun member hmember ↦ ?_
  rcases List.mem_append.mp hmember with hid | hothers
  · exact within_optionalMember (fun s ↦ within_string s _) _ _ member hid
  · simp only [List.mem_cons, List.not_mem_nil, or_false] at hothers
    rcases hothers with rfl | rfl | rfl
    · exact song.info.within_encode (depth + 5)
    · exact h
    · exact song.hats.within_encode (depth + 4)

/-- The object of a song nests less deep than the reader allows. -/
theorem Song.within_encode (song : Song) (depth : Nat) : song.encode.Within (depth + 7) := by
  have hpatterns := within_array_map (fun pattern : Pattern ↦ pattern.within_encode depth)
    song.patterns
  exact Song.within_object hpatterns

/-! ### The round trip -/

/-- A text that holds the canonical form of a song is read as the song. -/
theorem Song.ofJson_of_parse {song : Song} {text : String}
    (h : Json.parse text = .ok song.encode.canonical) : Song.ofJson text = .ok song := by
  rw [ofJson, h]
  simp only [ofValue_canonical_encode]

/-- Every song is read back from its compact text, from its text on indented lines, and from its
value. -/
theorem Song.ofJson_toJson (song : Song) :
    Song.ofJson song.toJson = .ok song ∧ Song.ofJson song.toJsonPretty = .ok song ∧
      Song.ofValue song.toValue = .ok song := by
  have hwithin : song.encode.Within Json.maxDepth := song.within_encode 120
  exact ⟨ofJson_of_parse (Json.parse_compact hwithin), ofJson_of_parse (Json.parse_pretty hwithin),
    song.ofValue_canonical_encode⟩

end StepSequencer
