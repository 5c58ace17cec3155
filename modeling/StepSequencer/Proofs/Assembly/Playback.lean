import StepSequencer.Proofs.Assembly.Readback
import StepSequencer.Proofs.Assembly.Traversal

/-!
# The compiled texts play the song

`Plays` follows a player through the texts of a compiled song. The line of a sequence names an
entry of a table, its four labels name groups, and the groups hold 32 slots: these are the slots
that `slotAt` gives for the channel. Nothing is assumed about identities, because a compilation in
which two groups collide does not succeed.

The lemmas before it say what each reader makes of the texts of a compilation that follows a
song: `Follows.readTable`, `Follows.readBlocks` and `Follows.sequence_eq`, and where the channel of
a pattern was placed (`exists_placement`).
-/

set_option autoImplicit false
set_option relaxedAutoImplicit false

namespace StepSequencer

open Json (decimal)
open Readback (Row readTable readBlocks heard rowOf)

/-- The text of the sequence of a physical channel. -/
def Fragments.sequence (fragments : Fragments) : Nat → String
  | 0 => fragments.sequence1
  | _ => fragments.sequence2

/-- The text of a table. -/
def Fragments.table (fragments : Fragments) : TableKind → String
  | .high => fragments.highTable
  | .low => fragments.lowTable

/-- The text of a table is its entries with the labels of the store. -/
theorem Compilation.table_fragments (compilation : Compilation) (kind : TableKind) :
    compilation.fragments.table kind =
      (compilation.arrangement.table kind).render compilation.store.labels := by
  cases kind <;> rfl

/-- The groups of a song: patterns in order, in each the channels, in each the four groups. -/
def songGroups (encoder : Encoder) (tuning : UInt8) (patterns : List Pattern) :
    List (List Slot) :=
  patterns.flatMap fun pattern ↦
    pattern.channels.flatMap (channelGroups encoder tuning pattern.steps)

theorem partGroups_songParts (encoder : Encoder) (tuning : UInt8) (patterns : List Pattern) :
    partGroups encoder tuning (songParts patterns) = songGroups encoder tuning patterns := by
  rw [partGroups, songParts, List.flatMap_assoc]
  exact congrArg (fun f ↦ patterns.flatMap f)
    (funext fun pattern ↦ partGroups_parts encoder tuning pattern)

variable {encoder : Encoder} {tuning : UInt8} {patterns : List Pattern}

/-- The texts of a song are those of its compilation. -/
theorem compile_of_compilePatterns {fragments : Fragments}
    (h : compilePatterns encoder tuning patterns = .ok fragments) :
    ∃ compilation, compile encoder tuning patterns = .ok compilation ∧
      fragments = compilation.fragments := by
  rw [compilePatterns] at h
  cases hcompile : compile encoder tuning patterns with
  | error fault =>
    rw [hcompile] at h
    cases h
  | ok compilation =>
    rw [hcompile] at h
    cases h
    exact ⟨compilation, rfl, rfl⟩

/-- A compilation that succeeds follows a song that can be played. -/
theorem follows_of_compile {compilation : Compilation}
    (h : compile encoder tuning patterns = .ok compilation) :
    Follows encoder tuning (songParts patterns) compilation ∧ Playable encoder tuning patterns := by
  have hagrees := compile_agrees encoder tuning patterns
  rw [h] at hagrees
  exact ⟨hagrees.2, songFaults_eq_nil_iff.mp hagrees.1⟩

/-- The texts of a song come from a compilation that holds the song, which can be played. -/
theorem exists_compilation {fragments : Fragments}
    (h : compilePatterns encoder tuning patterns = .ok fragments) :
    ∃ compilation : Compilation, fragments = compilation.fragments ∧
      Follows encoder tuning (songParts patterns) compilation ∧
        Playable encoder tuning patterns := by
  obtain ⟨compilation, hcompile, hfragments⟩ := compile_of_compilePatterns h
  exact ⟨compilation, hfragments, follows_of_compile hcompile⟩

/-! ### What the readers see -/

/-- The voices of a song. -/
def songVoices (encoder : Encoder) (tuning : UInt8) (patterns : List Pattern) :
    List (Nat × Voice) :=
  partVoices encoder tuning (songParts patterns)

/-- Placing keeps the parts of the song and their order. -/
theorem map_voice_placements (encoder : Encoder) (tuning : UInt8) (patterns : List Pattern) :
    ((placements (songVoices encoder tuning patterns)).map fun placement ↦
      (placement.channel, placement.voice)) =
      (songParts patterns).map
        (Part.voice encoder tuning (songGroups encoder tuning patterns)) := by
  rw [placements, map_voice_numbered, songVoices, partVoices, partGroups_songParts]

/-- The voice of every placement belongs to a part of the song. -/
theorem exists_part {placement : Placement}
    (h : placement ∈ placements (songVoices encoder tuning patterns)) :
    ∃ part ∈ songParts patterns, part.voice encoder tuning
      (songGroups encoder tuning patterns) = (placement.channel, placement.voice) :=
  List.mem_map.mp (map_voice_placements encoder tuning patterns ▸
    List.mem_map_of_mem (f := fun placement : Placement ↦
      (placement.channel, placement.voice)) h)

/-- Every part of the song has been placed. -/
theorem exists_placement_of_part {part : Part} (h : part ∈ songParts patterns) :
    ∃ placement ∈ placements (songVoices encoder tuning patterns),
      (placement.channel, placement.voice) =
        part.voice encoder tuning (songGroups encoder tuning patterns) :=
  List.mem_map.mp (map_voice_placements encoder tuning patterns ▸ List.mem_map_of_mem h)

/-- The blocks of a placed voice are the places of groups of the song. -/
theorem exists_groups {placement : Placement}
    (h : placement ∈ placements (songVoices encoder tuning patterns)) :
    ∃ groups : List (List Slot), groups.length = groupsPerPattern ∧
      placement.voice.blocks = groups.map (songGroups encoder tuning patterns).eraseDups.idxOf ∧
        ∀ group ∈ groups, group ∈ songGroups encoder tuning patterns := by
  obtain ⟨part, hpart, hvoice⟩ := exists_part h
  refine ⟨part.groups encoder tuning, length_channelGroups .., ?_, ?_⟩
  · exact (congrArg (fun voice ↦ voice.2.blocks) hvoice).symm
  · intro group hgroup
    rw [← partGroups_songParts]
    exact List.mem_flatMap.mpr ⟨part, hpart, hgroup⟩

/-- No table names a block that is not there. -/
theorem Follows.lt_size {compilation : Compilation}
    (h : Follows encoder tuning (songParts patterns) compilation) {kind : TableKind}
    {entry : Entry} (hentry : entry ∈ (compilation.arrangement.table kind).entries)
    {position : Nat} (hposition : position ∈ entry.blocks) :
    position < compilation.store.size := by
  have hstore := h.store
  rw [partGroups_songParts] at hstore
  rw [h.arrangement, table_arranged] at hentry
  obtain ⟨placement, hplacement, rfl⟩ := List.mem_map.mp hentry
  obtain ⟨groups, -, hblocks, hgroups⟩ := exists_groups (List.mem_filter.mp hplacement).1
  rw [Placement.entry, hblocks] at hposition
  obtain ⟨group, hgroup, rfl⟩ := List.mem_map.mp hposition
  rw [BlockStore.size, hstore, List.length_map]
  exact List.idxOf_lt_length_of_mem (List.mem_eraseDups.mpr (hgroups group hgroup))

/-- A table is read back as the rows of the voices that were placed in it. -/
theorem Follows.readTable {compilation : Compilation}
    (h : Follows encoder tuning (songParts patterns) compilation) (kind : TableKind) :
    readTable (compilation.fragments.table kind) =
      some ((tableEntries kind (placements (songVoices encoder tuning patterns))).map rowOf) := by
  have hentries : (compilation.arrangement.table kind).entries =
      tableEntries kind (placements (songVoices encoder tuning patterns)) := by
    rw [h.arrangement, table_arranged]
    rfl
  rw [compilation.table_fragments,
    Readback.readTable_render _ fun entry hentry position ↦ h.lt_size hentry, hentries]
  intro entry hentry hnil
  rw [hentries] at hentry
  obtain ⟨placement, hplacement, rfl⟩ := List.mem_map.mp hentry
  obtain ⟨groups, hlength, hblocks, -⟩ := exists_groups (List.mem_filter.mp hplacement).1
  rw [Placement.entry, hblocks, List.map_eq_nil_iff] at hnil
  rw [hnil] at hlength
  exact absurd hlength (by decide)

/-- The blocks are read back as what is heard in the groups, each below its label. -/
theorem Follows.readBlocks {compilation : Compilation}
    (h : Follows encoder tuning (songParts patterns) compilation) :
    readBlocks compilation.fragments.patterns =
      some ((songGroups encoder tuning patterns).eraseDups.zipIdx.map fun entry ↦
        (blockLabel entry.2, entry.1.map heard)) := by
  have hgroups := h.groups
  have hstore := h.store
  rw [partGroups_songParts] at hgroups hstore
  refine Readback.readBlocks_render ?_ fun group hgroup ↦
    (hgroups group (List.mem_eraseDups.mp hgroup)).length
  rw [hstore, List.map_map]
  rfl

/-- A sequence is the text of the values of the voices on its channel. -/
theorem Follows.sequence_eq {compilation : Compilation}
    (h : Follows encoder tuning (songParts patterns) compilation) {channel : Nat}
    (hchannel : channel < channelsPerPattern) :
    compilation.fragments.sequence channel = Arrangement.renderSequence
      (sequenceValues channel (placements (songVoices encoder tuning patterns))) := by
  have hcases : channel = 0 ∨ channel = 1 := by
    rw [channelsPerPattern] at hchannel
    omega
  rcases hcases with rfl | rfl
  · change Arrangement.renderSequence compilation.arrangement.sequence1 = _
    rw [h.arrangement]
    rfl
  · change Arrangement.renderSequence compilation.arrangement.sequence2 = _
    rw [h.arrangement]
    rfl

/-! ### Where a channel is placed -/

/-- The parts for one physical channel are the channels at its position, pattern by pattern. -/
theorem map_some_filter_songParts (hpatterns : ∀ pattern ∈ patterns, pattern.channels.length = 2)
    {position : Nat} (hposition : position < channelsPerPattern) :
    ((songParts patterns).filter fun part ↦ part.position = position).map some =
      patterns.map fun pattern ↦ pattern.channels[position]?.map fun channel ↦
        Part.mk position pattern.steps channel := by
  induction patterns with
  | nil => rfl
  | cons pattern rest ih =>
    have hrest := ih fun other hother ↦ hpatterns other (List.mem_cons_of_mem _ hother)
    have hcons : songParts (pattern :: rest) = pattern.parts ++ songParts rest :=
      List.flatMap_cons
    rw [hcons, List.filter_append, List.map_append, hrest, List.map_cons, ← List.singleton_append]
    refine congrArg (· ++ _) ?_
    obtain ⟨first, second, hchannels⟩ : ∃ first second, pattern.channels = [first, second] := by
      have hlength := hpatterns pattern List.mem_cons_self
      match hchannels : pattern.channels, hlength with
      | [first, second], _ => exact ⟨first, second, rfl⟩
    have hcases : position = 0 ∨ position = 1 := by
      rw [channelsPerPattern] at hposition
      omega
    rcases hcases with rfl | rfl <;> simp [Pattern.parts, hchannels]

/-- Numbering keeps the order of the voices of a physical channel. -/
theorem map_voice_filter_placements (encoder : Encoder) (tuning : UInt8)
    (patterns : List Pattern) (position : Nat) :
    (((placements (songVoices encoder tuning patterns)).filter fun placement ↦
      placement.channel = position).map fun placement ↦ (placement.channel, placement.voice)) =
      ((songParts patterns).filter fun part ↦ part.position = position).map
        (Part.voice encoder tuning (songGroups encoder tuning patterns)) := by
  have hfilter := congrArg (List.filter fun item : Nat × Voice ↦ item.1 = position)
    (map_voice_placements encoder tuning patterns)
  rw [List.filter_map, List.filter_map] at hfilter
  exact hfilter

/-- A sequence has a value for every pattern. -/
theorem length_sequenceValues (hpatterns : ∀ pattern ∈ patterns, pattern.channels.length = 2)
    {position : Nat} (hposition : position < channelsPerPattern) :
    (sequenceValues position (placements (songVoices encoder tuning patterns))).length =
      patterns.length := by
  have hvoices := congrArg List.length
    (map_voice_filter_placements encoder tuning patterns position)
  have hparts := congrArg List.length (map_some_filter_songParts hpatterns hposition)
  simp only [List.length_map] at hvoices hparts
  rw [sequenceValues, List.length_map, hvoices, hparts]

/-- The channel at a position of a pattern is placed where the sequence of this position says: at
the same place stand the part of the channel and, voice by voice, its placement. -/
theorem exists_placement (encoder : Encoder) (tuning : UInt8)
    (hpatterns : ∀ pattern ∈ patterns, pattern.channels.length = 2) {position place : Nat}
    (hposition : position < channelsPerPattern) {pattern : Pattern}
    (hpattern : patterns[place]? = some pattern) :
    ∃ channel placement, pattern.channels[position]? = some channel ∧
      placement ∈ placements (songVoices encoder tuning patterns) ∧
      (sequenceValues position (placements (songVoices encoder tuning patterns)))[place]? =
        some (placement.index + 1) ∧
      placement.voice = ⟨channel.attenuate,
        (channelGroups encoder tuning pattern.steps channel).map
          (songGroups encoder tuning patterns).eraseDups.idxOf⟩ := by
  have hlength := hpatterns pattern (List.mem_of_getElem? hpattern)
  have hchannel : position < pattern.channels.length := by
    rw [channelsPerPattern] at hposition
    omega
  have hparts := congrArg (fun list ↦ list[place]?)
    (map_some_filter_songParts hpatterns hposition)
  simp only [List.getElem?_map, hpattern, List.getElem?_eq_getElem hchannel, Option.map_some,
    Option.map_eq_some_iff, Option.some.injEq, exists_eq_right] at hparts
  have hplace := congrArg (fun list ↦ list[place]?)
    (map_voice_filter_placements encoder tuning patterns position)
  simp only [List.getElem?_map, hparts, Option.map_some, Option.map_eq_some_iff] at hplace
  obtain ⟨placement, hplacement, hvoice⟩ := hplace
  refine ⟨pattern.channels[position], placement, List.getElem?_eq_getElem hchannel,
    (List.mem_filter.mp (List.mem_of_getElem? hplacement)).1, ?_, (Prod.mk.inj hvoice).2⟩
  rw [sequenceValues, List.getElem?_map, hplacement, Option.map_some]

/-! ### Blocks by their labels -/

/-- A label leads to what stands under it. -/
theorem lookup_blockLabel {α β : Type} (f : α → β) (list : List α) (start place : Nat) :
    ((list.zipIdx start).map fun entry ↦ (blockLabel entry.2, f entry.1)).lookup
      (blockLabel (start + place)) = list[place]?.map f := by
  induction list generalizing start place with
  | nil => rfl
  | cons a rest ih =>
    rw [List.zipIdx_cons, List.map_cons, List.lookup_cons]
    cases place with
    | zero => simp
    | succ place =>
      have hne : (blockLabel (start + (place + 1)) == blockLabel start) = false := by
        refine beq_eq_false_iff_ne.mpr fun heq ↦ ?_
        have hplace := Readback.blockLabel_injective heq
        omega
      have hstart : start + (place + 1) = start + 1 + place := by omega
      rw [hne, hstart, ih, List.getElem?_cons_succ]

/-- The four groups of a channel, one behind the other, are its 32 slots. -/
theorem flatten_channelGroups (encoder : Encoder) (tuning steps : UInt8) (channel : Channel) :
    (channelGroups encoder tuning steps channel).flatten =
      (List.range slotsPerPattern).map
        (slotAt encoder tuning (slotsPerPattern / steps.toNat) channel.steps) :=
  rfl

/-- The labels of a channel lead to its groups. -/
theorem map_lookup_channelGroups {pattern : Pattern} {channel : Channel}
    (hpattern : pattern ∈ patterns) (hchannel : channel ∈ pattern.channels) :
    ((channelGroups encoder tuning pattern.steps channel).map fun group ↦
      ((songGroups encoder tuning patterns).eraseDups.zipIdx.map fun entry ↦
        (blockLabel entry.2, entry.1.map heard)).lookup
          (blockLabel ((songGroups encoder tuning patterns).eraseDups.idxOf group))) =
      (channelGroups encoder tuning pattern.steps channel).map fun group ↦
        some (group.map heard) := by
  refine List.map_congr_left fun group hgroup ↦ ?_
  have hmem : group ∈ (songGroups encoder tuning patterns).eraseDups :=
    List.mem_eraseDups.mpr (List.mem_flatMap.mpr
      ⟨pattern, hpattern, List.mem_flatMap.mpr ⟨channel, hchannel, hgroup⟩⟩)
  have hlookup := lookup_blockLabel (List.map heard) (songGroups encoder tuning patterns).eraseDups
    0 ((songGroups encoder tuning patterns).eraseDups.idxOf group)
  rw [Nat.zero_add, List.getElem?_eq_getElem (List.idxOf_lt_length_of_mem hmem),
    List.getElem_idxOf, Option.map_some] at hlookup
  exact hlookup

/-- The labels in the entry of a placed channel. -/
theorem labels_entry {placement : Placement} {steps : UInt8} {channel : Channel}
    (h : placement.voice = ⟨channel.attenuate, (channelGroups encoder tuning steps channel).map
      (songGroups encoder tuning patterns).eraseDups.idxOf⟩) :
    (rowOf placement.entry).labels =
      (channelGroups encoder tuning steps channel).map fun group ↦
        blockLabel ((songGroups encoder tuning patterns).eraseDups.idxOf group) := by
  rw [rowOf, Placement.entry, h, List.map_map]
  rfl

/-! ### Playback -/

/-- A song that was compiled has room for its voices in both tables. -/
theorem Follows.countOf_songVoices_le {compilation : Compilation}
    (h : Follows encoder tuning (songParts patterns) compilation) (kind : TableKind) :
    countOf kind (songVoices encoder tuning patterns) ≤ kind.capacity := by
  rw [songVoices, countOf_partVoices]
  exact h.room kind

/-- A value finds the rows of the entries that it points to. -/
theorem filter_map_rowOf (entries : List Entry) (index : Nat) :
    ((entries.map rowOf).filter fun row ↦ row.index + 1 = index + 1) =
      (entries.filter fun entry ↦ entry.index = index).map rowOf := by
  rw [List.filter_map]
  refine congrArg (List.map rowOf) (List.filter_congr fun entry _ ↦ ?_)
  exact decide_eq_decide.mpr Nat.add_right_cancel_iff

/-- The way of a player from a line of a sequence to the slots of a channel, given the rows of
the tables and the groups under the labels. The line holds a value; the value is the index of one
row, plus one, in the table that the attenuation of the channel asks for, and of none in the
other; the four labels of the row lead to groups of eight, which are the 32 slots. -/
structure Route (encoder : Encoder) (tuning : UInt8) (pattern : Pattern) (channel : Channel)
    (rows : TableKind → List Row) (blocks : List (String × List (Nat × Bool))) (line : String)
    (increment value : Nat) (row : Row) (groups : List (List (Nat × Bool))) : Prop where
  line_eq : line = "    byte " ++ decimal value
  value_le_iff : value ≤ 128 ↔ channel.attenuate = false
  filter_rows : ∀ kind, ((rows kind).filter fun row ↦ row.index + 1 = value) =
    if kind = TableKind.ofAttenuation channel.attenuate then [row] else []
  length_labels : row.labels.length = 4
  map_lookup : (row.labels.map fun label ↦ blocks.lookup label) = groups.map some
  length_groups : ∀ group ∈ groups, group.length = 8
  increment_mul : increment * pattern.steps.toNat = 32
  flatten_groups : groups.flatten = (List.range 32).map fun slot ↦
    heard (slotAt encoder tuning increment channel.steps slot)

/-- A player that has only the five texts finds the song in them: the texts can be read, the
sequence of a physical channel has a line for every pattern, and every line leads to the slots of
the channel of that pattern. -/
def Plays (encoder : Encoder) (tuning : UInt8) (patterns : List Pattern)
    (fragments : Fragments) : Prop :=
  ∃ (rows : TableKind → List Row) (blocks : List (String × List (Nat × Bool))),
    (∀ kind, readTable (fragments.table kind) = some (rows kind)) ∧
    readBlocks fragments.patterns = some blocks ∧
    ∀ position < 2, (Text.lines (fragments.sequence position)).length = patterns.length ∧
      ∀ (place : Nat) (pattern : Pattern), patterns[place]? = some pattern →
        ∃ channel line increment value row groups,
          pattern.channels[position]? = some channel ∧
          (Text.lines (fragments.sequence position))[place]? = some line ∧
          Route encoder tuning pattern channel rows blocks line increment value row groups

/-- The line for a placed channel leads to its slots. -/
theorem Follows.route {compilation : Compilation}
    (h : Follows encoder tuning (songParts patterns) compilation) {pattern : Pattern}
    {channel : Channel} {placement : Placement} (hpattern : pattern ∈ patterns)
    (hsteps : pattern.steps.toNat ∣ 32) (hchannel : channel ∈ pattern.channels)
    (hplacement : placement ∈ placements (songVoices encoder tuning patterns))
    (hvoice : placement.voice = ⟨channel.attenuate,
      (channelGroups encoder tuning pattern.steps channel).map
        (songGroups encoder tuning patterns).eraseDups.idxOf⟩) :
    Route encoder tuning pattern channel
      (fun kind ↦ (tableEntries kind (placements (songVoices encoder tuning patterns))).map rowOf)
      ((songGroups encoder tuning patterns).eraseDups.zipIdx.map fun entry ↦
        (blockLabel entry.2, entry.1.map heard))
      (Readback.valueLine (placement.index + 1)) (32 / pattern.steps.toNat) (placement.index + 1)
      (rowOf placement.entry)
      ((channelGroups encoder tuning pattern.steps channel).map fun group ↦ group.map heard) := by
  have hkind : placement.voice.kind = TableKind.ofAttenuation channel.attenuate := by
    rw [hvoice]
    rfl
  have hcapacity := h.countOf_songVoices_le
  constructor
  case line_eq => rfl
  case value_le_iff =>
    have hlt := index_lt_iff hcapacity (mem_placedIn hplacement)
    rw [hkind] at hlt
    have hhigh : TableKind.ofAttenuation channel.attenuate = .high ↔
        channel.attenuate = false := by
      cases channel.attenuate <;> decide
    rw [← hhigh, ← hlt]
    exact Nat.lt_iff_add_one_le.symm
  case filter_rows =>
    intro kind
    have hfilter := congrArg (List.map rowOf) (filter_index_tables hcapacity hplacement kind)
    rw [filter_map_rowOf, hfilter, hkind]
    split <;> rfl
  case length_labels =>
    rw [labels_entry hvoice, List.length_map, length_channelGroups]
    rfl
  case map_lookup =>
    rw [labels_entry hvoice, List.map_map, List.map_map]
    exact map_lookup_channelGroups hpattern hchannel
  case length_groups =>
    intro group hgroup
    obtain ⟨slots, hslots, rfl⟩ := List.mem_map.mp hgroup
    rw [List.length_map, length_of_mem_channelGroups hslots]
    rfl
  case increment_mul => exact Nat.div_mul_cancel hsteps
  case flatten_groups =>
    rw [← List.map_flatten, flatten_channelGroups, List.map_map]
    rfl

/-- A compiled song plays from its texts alone, whatever the encoder gives and whatever the
identities of the blocks are. -/
theorem compilePatterns_plays {fragments : Fragments}
    (h : compilePatterns encoder tuning patterns = .ok fragments) :
    Plays encoder tuning patterns fragments := by
  obtain ⟨compilation, rfl, hfollows, hplayable⟩ := exists_compilation h
  refine ⟨_, _, hfollows.readTable, hfollows.readBlocks, fun position hposition ↦ ⟨?_, ?_⟩⟩
  · rw [hfollows.sequence_eq hposition, Readback.lines_renderSequence, List.length_map,
      length_sequenceValues hplayable.channels hposition]
  · intro place pattern hpattern
    have hmem := List.mem_of_getElem? hpattern
    obtain ⟨channel, placement, hchannel, hplacement, hvalue, hvoice⟩ :=
      exists_placement encoder tuning hplayable.channels hposition hpattern
    have hroute := hfollows.route hmem (hplayable.steps pattern hmem).2
      (List.mem_of_getElem? hchannel) hplacement hvoice
    refine ⟨channel, _, _, _, _, _, hchannel, ?_, hroute⟩
    rw [hfollows.sequence_eq hposition, Readback.lines_renderSequence, List.getElem?_map, hvalue,
      Option.map_some]

/-- Two patterns of different step counts that share all their groups. One voice is attenuated,
and one accented step is a rest. -/
def twoPatterns : List Pattern :=
  [⟨4, [⟨false, [{ sound := some 7, accent := true }, {}, {},
        { sound := some 0, accent := true }]⟩,
      ⟨true, [{}, {}, { sound := some 7, accent := true }, {}]⟩]⟩,
    ⟨2, [⟨false, [{ sound := some 7, accent := true }, {}]⟩, ⟨false, [{}, {}]⟩]⟩]

theorem exists_fragments_twoPatterns :
    ∃ fragments, compilePatterns (fun _ step ↦ step.sound) 0 twoPatterns = .ok fragments := by
  have hok : (compilePatterns (fun _ step ↦ step.sound) 0 twoPatterns).isOk = true := by
    decide +kernel
  cases houtcome : compilePatterns (fun _ step ↦ step.sound) 0 twoPatterns with
  | error fault =>
    rw [houtcome] at hok
    cases hok
  | ok fragments => exact ⟨fragments, rfl⟩

/-- Two patterns that share all their groups are heard as they are. -/
theorem plays_twoPatterns :
    ∃ fragments, compilePatterns (fun _ step ↦ step.sound) 0 twoPatterns = .ok fragments ∧
      Plays (fun _ step ↦ step.sound) 0 twoPatterns fragments := by
  obtain ⟨fragments, hok⟩ := exists_fragments_twoPatterns
  exact ⟨fragments, hok, compilePatterns_plays hok⟩

end StepSequencer
