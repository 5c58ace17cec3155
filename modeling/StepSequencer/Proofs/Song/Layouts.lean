import StepSequencer.Proofs.Song.Accepted
import StepSequencer.Proofs.Song.RoundTrip

/-!
# One song in many layouts

A channel can be written as an object or as a bare list of steps, and a rest as an empty object or
as a null. A `PatternForm` makes this choice for every channel and every step of a pattern, and
`Song.written` is the document of a song for a choice in every pattern. The attenuation of a bare
channel is written with the pattern, which has room for that of its first two channels and may
leave it out, or write a null, where there is none; for a channel that is an object the pattern may
say anything.

Every such document is read as the song. Behind this stand two facts about all documents: a list
of steps and nulls is never read as a channel object (`ofValue_array`), and a channel object is
read as it is, whatever its pattern says (`channel_of_object`).
-/

set_option autoImplicit false
set_option relaxedAutoImplicit false

namespace StepSequencer

open Json (Value)

/-! ### Documents -/

/-- How a pattern is written: which channels are bare lists, which rests of a channel are nulls,
and what the pattern says about the attenuation of a channel, which is nothing, a null or a truth
value. For a bare channel only the choice between these three is made here, and only if it is not
attenuated. Channels and steps are given by position. -/
structure PatternForm where
  bare : Nat → Bool
  null : Nat → Nat → Bool
  flag : Nat → Option (Option Bool)

/-- A step as an object, or as a null if it is a rest. -/
def Step.written (null : Bool) (step : Step) : Value :=
  if null = true ∧ step = Step.rest then .null else step.encode

/-- The steps of a channel as a list. -/
def Channel.writtenSteps (null : Nat → Bool) (channel : Channel) : Value :=
  .array (channel.steps.zipIdx.map fun item ↦ item.1.written (null item.2))

/-- A channel as a bare list or as an object. -/
def Channel.written (form : PatternForm) (position : Nat) (channel : Channel) : Value :=
  if form.bare position then channel.writtenSteps (form.null position)
  else .object [("attenuate", .bool channel.attenuate),
    ("steps", channel.writtenSteps (form.null position))]

/-- What a pattern says about the attenuation of a bare channel: that there is one, and of a
channel without one nothing, a null or that there is none, as it would of another channel. -/
def bareFlag (flag : Option (Option Bool)) (attenuate : Bool) : Option (Option Bool) :=
  if attenuate then some (some true) else flag.map fun value ↦ value.map fun _ ↦ false

/-- What a pattern says about the attenuation of the channel at a position. -/
def Pattern.writtenFlag (form : PatternForm) (pattern : Pattern) (position : Nat) :
    Option (Option Bool) :=
  match pattern.channels[position]? with
  | some channel =>
    if form.bare position then bareFlag (form.flag position) channel.attenuate
    else form.flag position
  | none => form.flag position

/-- A pattern as an object. -/
def Pattern.written (form : PatternForm) (pattern : Pattern) : Value :=
  .object ([("steps", byteValue pattern.steps),
    ("channels", .array (pattern.channels.zipIdx.map fun item ↦ item.1.written form item.2))] ++
    optionalMember "channel1attenuation" flagValue (pattern.writtenFlag form 0) ++
    optionalMember "channel2attenuation" flagValue (pattern.writtenFlag form 1))

/-- A song as an object, with a form for every pattern. -/
def Song.written (forms : Nat → PatternForm) (song : Song) : Value :=
  .object (optionalMember "id" .string song.id ++
    [("meta", song.info.encode),
      ("patterns", .array (song.patterns.zipIdx.map fun item ↦ item.1.written (forms item.2))),
      ("hats", song.hats.encode)])

/-- Only channels whose attenuation the pattern can say, or that have none, are bare. -/
def Pattern.Admits (form : PatternForm) (pattern : Pattern) : Prop :=
  ∀ position channel, pattern.channels[position]? = some channel → form.bare position = true →
    position < 2 ∨ channel.attenuate = false

/-! ### Steps -/

/-- A step is read back, and a null as no step. -/
theorem Step.decodeOption_written (null : Bool) (step : Step) :
    decodeOption Step.ofValue (step.written null).canonical =
      .ok (if null = true ∧ step = Step.rest then none else some step) := by
  unfold written
  split
  · rfl
  · refine decodeOption_of_ne_null step.ofValue_canonical_encode ?_
    rw [canonical_encode]
    simp

/-- The steps of a channel are read back, with a rest for every null. -/
theorem Channel.listOfValue_writtenSteps (null : Nat → Bool) (channel : Channel) :
    Step.listOfValue (channel.writtenSteps null).canonical = .ok channel.steps := by
  have hsteps := decodeList_map fun (item : Step × Nat) (_ : item ∈ channel.steps.zipIdx) ↦
    item.1.decodeOption_written (null item.2)
  have hgetD : ∀ item : Step × Nat,
      (if null item.2 = true ∧ item.1 = Step.rest then none else some item.1).getD Step.rest =
        item.1 := by
    intro item
    split
    · rename_i hrest
      exact hrest.2.symm
    · rfl
  unfold writtenSteps
  rw [canonical_array_map, Step.listOfValue, hsteps]
  simp only [Except.map, List.map_map, Function.comp_def, hgetD]
  exact congrArg Except.ok (List.zipIdx_map_fst 0 channel.steps)

/-! ### Lists of steps are no channel objects -/

/-- What stands first in a list of steps is no truth value, and an empty list lacks the steps of
a channel object. -/
theorem StoredChannel.objectOfValue_array {elements : List Value} {steps : List Step}
    (h : Step.listOfValue (.array elements) = .ok steps) :
    ∃ e, objectOfValue (.array elements) = .error e := by
  cases elements with
  | nil => exact ⟨_, rfl⟩
  | cons first rest =>
    cases first with
    | bool b => cases h
    | _ => exact ⟨_, rfl⟩

/-- A list of steps is a bare channel. -/
theorem StoredChannel.ofValue_array {elements : List Value} {steps : List Step}
    (h : Step.listOfValue (.array elements) = .ok steps) :
    StoredChannel.ofValue (.array elements) = .ok (.bare steps) := by
  obtain ⟨e, hobject⟩ := objectOfValue_array h
  rw [ofValue, hobject, h]

/-- A channel is read in the layout in which it was written. -/
theorem StoredChannel.ofValue_written (form : PatternForm) (position : Nat) (channel : Channel) :
    StoredChannel.ofValue (channel.written form position).canonical =
      .ok (if form.bare position then .bare channel.steps else .current channel) := by
  have hsteps := channel.listOfValue_writtenSteps (form.null position)
  unfold Channel.written
  split
  · rw [Channel.writtenSteps, canonical_array_map] at hsteps ⊢
    exact ofValue_array hsteps
  · rw [Channel.canonical_object]
    exact ofValue_object channel.attenuate hsteps

/-! ### Attenuation -/

/-- What a pattern says about the attenuation of the channel at a position. -/
def attenuationAt (attenuation1 attenuation2 : Option Bool) : Nat → Option Bool
  | 0 => attenuation1
  | 1 => attenuation2
  | _ => none

/-- Every channel gets what the pattern says about its position. -/
theorem Pattern.getElem?_attenuated (attenuation1 attenuation2 : Option Bool)
    (channels : List StoredChannel) (position : Nat) :
    (attenuated attenuation1 attenuation2 channels)[position]? =
      channels[position]?.map
        (StoredChannel.toChannel (attenuationAt attenuation1 attenuation2 position)) := by
  match channels, position with
  | [], _ => rfl
  | [_], 0 => rfl
  | [_], _ + 1 => rfl
  | _ :: _ :: _, 0 => rfl
  | _ :: _ :: _, 1 => rfl
  | _ :: _ :: others, position + 2 => exact List.getElem?_map

/-- The attenuation of a bare channel is known from what the pattern says, or does not say. -/
theorem getD_join_bareFlag (flag : Option (Option Bool)) (attenuate : Bool) :
    (bareFlag flag attenuate).join.getD false = attenuate := by
  cases attenuate with
  | true => rfl
  | false =>
    match flag with
    | none => rfl
    | some none => rfl
    | some (some _) => rfl

/-- The channels of a written pattern get back the attenuation they have. -/
theorem Pattern.attenuated_written {form : PatternForm} {pattern : Pattern}
    (h : pattern.Admits form) :
    attenuated (pattern.writtenFlag form 0).join (pattern.writtenFlag form 1).join
      (pattern.channels.zipIdx.map fun item ↦
        if form.bare item.2 then .bare item.1.steps else .current item.1) =
      pattern.channels := by
  refine List.ext_getElem? fun position ↦ ?_
  rw [getElem?_attenuated, List.getElem?_map, List.getElem?_zipIdx, Nat.zero_add]
  cases hchannel : pattern.channels[position]? with
  | none => rfl
  | some channel =>
    simp only [Option.map_some]
    by_cases hbare : form.bare position = true
    · rw [if_pos hbare]
      have hadmits := h position channel hchannel hbare
      have hflag : (pattern.writtenFlag form position).join.getD false = channel.attenuate := by
        simp only [writtenFlag, hchannel, if_pos hbare, getD_join_bareFlag]
      have hown : (attenuationAt (pattern.writtenFlag form 0).join
          (pattern.writtenFlag form 1).join position).getD false = channel.attenuate := by
        match position with
        | 0 => exact hflag
        | 1 => exact hflag
        | position + 2 => exact (hadmits.resolve_left (by omega)).symm
      rw [StoredChannel.toChannel, hown]
    · rw [if_neg hbare]
      rfl

/-- A pattern is read back from every layout that it admits. -/
theorem Pattern.ofValue_written {form : PatternForm} {pattern : Pattern}
    (h : pattern.Admits form) :
    Pattern.ofValue (pattern.written form).canonical = .ok pattern := by
  have hchannels := decodeList_map fun (item : Channel × Nat)
    (_ : item ∈ pattern.channels.zipIdx) ↦ StoredChannel.ofValue_written form item.2 item.1
  rw [← canonical_array_map] at hchannels
  rw [written, canonical_object, ofValue_members _ _ hchannels, attenuated_written h]

/-- A song is read back from every layout that its patterns admit. -/
theorem Song.ofValue_written {forms : Nat → PatternForm} {song : Song}
    (h : ∀ (position : Nat) (pattern : Pattern), song.patterns[position]? = some pattern →
      pattern.Admits (forms position)) :
    Song.ofValue (song.written forms).canonical = .ok song := by
  have hpatterns := decodeList_map fun (item : Pattern × Nat)
    (hitem : item ∈ song.patterns.zipIdx) ↦
      Pattern.ofValue_written (h item.2 item.1 (List.mem_zipIdx_iff_getElem?.mp hitem))
  rw [List.zipIdx_map_fst, ← canonical_array_map] at hpatterns
  rw [written, canonical_object]
  exact ofValue_members hpatterns

/-! ### Documents as texts -/

theorem Step.within_written (null : Bool) (step : Step) (depth : Nat) :
    (step.written null).Within (depth + 1) := by
  unfold written
  split
  · trivial
  · exact step.within_encode depth

theorem Channel.within_writtenSteps (null : Nat → Bool) (channel : Channel) (depth : Nat) :
    (channel.writtenSteps null).Within (depth + 2) :=
  within_array_map (fun item : Step × Nat ↦ item.1.within_written (null item.2) depth) _

theorem Channel.within_written (form : PatternForm) (position : Nat) (channel : Channel)
    (depth : Nat) : (channel.written form position).Within (depth + 3) := by
  unfold written
  split
  · exact channel.within_writtenSteps (form.null position) (depth + 1)
  · have hsteps := channel.within_writtenSteps (form.null position) depth
    exact within_object (by simp [hsteps])

theorem within_flagValue (flag : Option Bool) (depth : Nat) : (flagValue flag).Within depth := by
  cases flag <;> trivial

theorem Pattern.within_written (form : PatternForm) (pattern : Pattern) (depth : Nat) :
    (pattern.written form).Within (depth + 5) := by
  have hchannels := within_array_map (fun item : Channel × Nat ↦
    item.1.within_written form item.2 depth) pattern.channels.zipIdx
  refine within_object fun member hmember ↦ ?_
  rcases List.mem_append.mp hmember with hmember | hsecond
  · rcases List.mem_append.mp hmember with hown | hfirst
    · simp only [List.mem_cons, List.not_mem_nil, or_false] at hown
      rcases hown with rfl | rfl
      · exact within_byteValue pattern.steps _
      · exact hchannels
    · exact within_optionalMember (fun flag ↦ within_flagValue flag _) _ _ member hfirst
  · exact within_optionalMember (fun flag ↦ within_flagValue flag _) _ _ member hsecond

/-- A document of a song nests less deep than the reader allows. -/
theorem Song.within_written (forms : Nat → PatternForm) (song : Song) (depth : Nat) :
    (song.written forms).Within (depth + 7) := by
  have hpatterns := within_array_map (fun item : Pattern × Nat ↦
    item.1.within_written (forms item.2) depth) song.patterns.zipIdx
  exact Song.within_object hpatterns

/-! ### Channel objects are read as they are -/

/-- Only the member for the channels sets them. -/
theorem Pattern.Draft.channels_of_visit {draft next : Draft} {key : String} {value : Value}
    (hkey : key ≠ "channels") (h : draft.visit key value = .ok next) :
    next.channels = draft.channels := by
  unfold Draft.visit at h
  split at h
  · obtain ⟨steps, -, h⟩ := bind_eq_ok h
    cases h
    rfl
  · exact absurd rfl hkey
  · obtain ⟨flag, -, h⟩ := bind_eq_ok h
    cases h
    rfl
  · obtain ⟨flag, -, h⟩ := bind_eq_ok h
    cases h
    rfl
  · cases h

/-- Some values stand for the channels in a document that is an object, in which a key occurs
once, or an array. -/
def Pattern.HoldsChannels (values : List Value) : Value → Prop
  | .object members => (members.map Prod.fst).Nodup ∧ ("channels", .array values) ∈ members
  | .array elements => elements[1]? = some (.array values)
  | _ => False

/-- A pattern is read as the channels that the values for them are read as, with the attenuation
that the pattern holds for bare ones. -/
theorem Pattern.channels_of_ofValue {value : Value} {values : List Value} {pattern : Pattern}
    (h : Pattern.ofValue value = .ok pattern) (hvalues : HoldsChannels values value) :
    ∃ channels attenuation1 attenuation2,
      decodeList StoredChannel.ofValue (.array values) = .ok channels ∧
        pattern.channels = attenuated attenuation1 attenuation2 channels := by
  cases value with
  | object members =>
    obtain ⟨draft, hdraft, h⟩ := bind_eq_ok h
    obtain ⟨before, after, hvisit, hchannels⟩ :=
      decodeMembers_of_mem (fun _ _ _ _ ↦ Draft.channels_of_visit) hdraft hvalues.1 hvalues.2
    obtain ⟨channels, hread, hafter⟩ := bind_eq_ok hvisit
    cases hafter
    obtain ⟨steps, -, h⟩ := bind_eq_ok h
    rw [hchannels] at h
    cases h
    exact ⟨channels, _, _, below_eq_ok hread, rfl⟩
  | array elements =>
    obtain ⟨read, helements, h⟩ := bind_eq_ok h
    obtain ⟨-, -, h⟩ := bind_eq_ok h
    cases h
    obtain ⟨steps, -, h⟩ := bind_eq_ok helements
    obtain ⟨channels, hread, h⟩ := bind_eq_ok h
    obtain ⟨attenuation1, -, h⟩ := bind_eq_ok h
    obtain ⟨attenuation2, -, h⟩ := bind_eq_ok h
    cases h
    exact ⟨channels, _, _, positional_of_getElem? hread hvalues, rfl⟩
  | _ => cases hvalues

/-- A channel object of a pattern is read as the channel it describes; what the pattern says about
attenuation does not matter. -/
theorem Pattern.channel_of_object {document : Value} {values : List Value} {pattern : Pattern}
    (h : Pattern.ofValue document = .ok pattern) (hvalues : HoldsChannels values document)
    {position : Nat} {value : Value} {channel : Channel}
    (hvalue : values[position]? = some value)
    (hobject : StoredChannel.ofValue value = .ok (.current channel)) :
    pattern.channels[position]? = some channel := by
  obtain ⟨channels, attenuation1, attenuation2, hread, hchannels⟩ := channels_of_ofValue h hvalues
  obtain ⟨stored, hstored, hposition⟩ := decodeElements_getElem? hread hvalue
  rw [hobject] at hstored
  cases hstored
  rw [hchannels, getElem?_attenuated, hposition]
  rfl

/-! ### All layouts -/

/-- A list of steps and nulls is read as steps. -/
theorem Step.listOfValue_of_forall {elements : List Value}
    (h : ∀ element ∈ elements, element = .null ∨ ∃ step, Step.ofValue element = .ok step) :
    ∃ steps, Step.listOfValue (.array elements) = .ok steps := by
  have hread : ∀ element ∈ elements, ∃ step, decodeOption Step.ofValue element = .ok step := by
    intro element helement
    rcases h element helement with rfl | ⟨step, hstep⟩
    · exact ⟨none, rfl⟩
    · refine ⟨some step, decodeOption_of_ne_null hstep ?_⟩
      rintro rfl
      cases hstep
  obtain ⟨list, hlist⟩ := decodeElements_of_forall hread 0
  rw [listOfValue, decodeList, hlist]
  exact ⟨_, rfl⟩

/-- A song is read back from its document in any layout, as a value and as a text. In any pattern a
channel object is read as it is, whatever the pattern says about attenuation, and a list of steps
and nulls is always read as a bare channel. -/
theorem Song.ofValue_layouts (song : Song) (forms : Nat → PatternForm)
    (h : ∀ (position : Nat) (pattern : Pattern), song.patterns[position]? = some pattern →
      pattern.Admits (forms position)) :
    Song.ofValue (song.written forms).canonical = .ok song ∧
    Song.ofJson (song.written forms).compact = .ok song ∧
    (∀ (document : Value) (values : List Value) (pattern : Pattern),
      Pattern.ofValue document = .ok pattern → Pattern.HoldsChannels values document →
        ∀ (position : Nat) (value : Value) (channel : Channel), values[position]? = some value →
          StoredChannel.ofValue value = .ok (.current channel) →
            pattern.channels[position]? = some channel) ∧
    (∀ elements : List Value,
      (∀ element ∈ elements, element = .null ∨ ∃ step, Step.ofValue element = .ok step) →
        ∃ steps, Step.listOfValue (.array elements) = .ok steps ∧
          StoredChannel.ofValue (.array elements) = .ok (.bare steps)) := by
  have hread := Song.ofValue_written h
  refine ⟨hread, ?_, ?_, ?_⟩
  · rw [ofJson, Json.parse_compact (song.within_written forms 120)]
    simp only [hread]
  · intro document values pattern hpattern hvalues position value channel hvalue hobject
    exact Pattern.channel_of_object hpattern hvalues hvalue hobject
  · intro elements helements
    obtain ⟨steps, hsteps⟩ := Step.listOfValue_of_forall helements
    exact ⟨steps, hsteps, StoredChannel.ofValue_array hsteps⟩

/-- A pattern of three channels, of which the first is attenuated. -/
def mixedPattern : Pattern :=
  ⟨2, [⟨true, [{}, Step.percussion 3]⟩, ⟨false, [{}, {}]⟩, ⟨false, [{}, {}]⟩]⟩

/-- All channels are bare but the second, for which the pattern says the opposite; the first step
of a channel is a null if it can be one. -/
def mixedForm : PatternForm :=
  ⟨fun position ↦ position ≠ 1, fun _ step ↦ step = 0, fun _ ↦ some (some true)⟩

/-- All channels are bare, every rest is a null, and the pattern says nothing of the attenuation
that a channel does not have. -/
def legacyForm : PatternForm :=
  ⟨fun _ ↦ true, fun _ _ ↦ true, fun _ ↦ none⟩

/-- A song of this pattern. -/
def mixedSong : Song :=
  { Song.new "mixed" 1 with patterns := [mixedPattern] }

/-- The pattern has room for the attenuation that its first channel has. -/
theorem admits_mixedSong (form : PatternForm) (position : Nat) (pattern : Pattern)
    (h : mixedSong.patterns[position]? = some pattern) : pattern.Admits form := by
  have hpattern : pattern = mixedPattern := List.mem_singleton.mp (List.mem_of_getElem? h)
  subst hpattern
  intro place channel hchannel _
  match place with
  | 0 => exact Or.inl (by decide)
  | 1 => exact Or.inl (by decide)
  | 2 =>
    cases hchannel
    exact Or.inr rfl
  | _ + 3 => cases hchannel

/-- The pattern in a mixed layout and in one where all channels are bare and a flag is left out. -/
theorem ofValue_layouts_mixedSong :
    mixedPattern.written mixedForm = .object [("steps", byteValue 2),
      ("channels", .array [.array [.null, .object [("sound", byteValue 3)]],
        .object [("attenuate", .bool false), ("steps", .array [.null, .object []])],
        .array [.null, .object []]]),
      ("channel1attenuation", .bool true), ("channel2attenuation", .bool true)] ∧
    Song.ofValue (mixedSong.written fun _ ↦ mixedForm).canonical = .ok mixedSong ∧
    mixedPattern.written legacyForm = .object [("steps", byteValue 2),
      ("channels", .array [.array [.null, .object [("sound", byteValue 3)]],
        .array [.null, .null], .array [.null, .null]]),
      ("channel1attenuation", .bool true)] ∧
    Song.ofValue (mixedSong.written fun _ ↦ legacyForm).canonical = .ok mixedSong :=
  ⟨rfl, (mixedSong.ofValue_layouts (fun _ ↦ mixedForm) (admits_mixedSong mixedForm)).1, rfl,
    (mixedSong.ofValue_layouts (fun _ ↦ legacyForm) (admits_mixedSong legacyForm)).1⟩

end StepSequencer
