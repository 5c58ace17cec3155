import StepSequencer.Proofs.Assembly.Playback

/-!
# Every group is written once

The text of the blocks of a compiled song is the list of its distinct groups, each under a label
that counts them in the order of their first occurrence. `readLabel` finds the label of a group of
the song in the texts, through the sequences and the tables: groups share a label exactly when
their codes and accents are the same. No label is defined twice, none is used without being
defined, and none is defined without being used.
-/

set_option autoImplicit false
set_option relaxedAutoImplicit false

namespace StepSequencer

open Json (decimal)
open Readback (Row readTable readSequence readBlocks heard rowOf)

/-- A group of the channel at a position of the pattern at a place of the song. -/
def groupAt (encoder : Encoder) (tuning : UInt8) (patterns : List Pattern)
    (position place number : Nat) : Option (List Slot) := do
  let pattern ← patterns[place]?
  let channel ← pattern.channels[position]?
  (channelGroups encoder tuning pattern.steps channel)[number]?

/-- The label that the texts of a song give to a group: the sequence of the physical channel names
an entry of a table, and the entry names the label. -/
def readLabel (fragments : Fragments) (position place number : Nat) : Option String := do
  let values ← readSequence (fragments.sequence position)
  let value ← values[place]?
  let high ← readTable fragments.highTable
  let low ← readTable fragments.lowTable
  let row ← (high ++ low).find? fun row ↦ row.index + 1 = value
  row.labels[number]?

/-- What it means that the texts of a song hold each of its groups once. -/
structure StoresOnce (encoder : Encoder) (tuning : UInt8) (patterns : List Pattern)
    (fragments : Fragments) : Prop where
  text : fragments.patterns =
    String.join ((songGroups encoder tuning patterns).eraseDups.zipIdx.map fun entry ↦
      "Pattern" ++ decimal (entry.2 + 1 : Nat) ++ "\n" ++ groupText entry.1)
  label : ∀ {position place number position' place' number' : Nat} {first second : List Slot},
    position < 2 → position' < 2 →
    groupAt encoder tuning patterns position place number = some first →
    groupAt encoder tuning patterns position' place' number' = some second →
      (readLabel fragments position place number).isSome ∧
      (readLabel fragments position place number = readLabel fragments position' place' number' ↔
        first.map Slot.byte = second.map Slot.byte ∧
          first.map Slot.accent = second.map Slot.accent)
  uses : ∃ (high low : List Row) (blocks : List (String × List (Nat × Bool))),
    readTable fragments.highTable = some high ∧ readTable fragments.lowTable = some low ∧
    readBlocks fragments.patterns = some blocks ∧
    (∀ label ∈ blocks.map Prod.fst, ∃ row ∈ high ++ low, label ∈ row.labels) ∧
    (∀ row ∈ high ++ low, ∀ label ∈ row.labels, (blocks.map Prod.fst).count label = 1)

variable {encoder : Encoder} {tuning : UInt8} {patterns : List Pattern}

/-! ### The text of the blocks -/

/-- The text of the patterns holds every group of the song once, in the order of first use, each
below the label of its number. -/
theorem Follows.patterns_eq {compilation : Compilation}
    (h : Follows encoder tuning (songParts patterns) compilation) :
    compilation.fragments.patterns =
      String.join ((songGroups encoder tuning patterns).eraseDups.zipIdx.map fun entry ↦
        "Pattern" ++ decimal (entry.2 + 1 : Nat) ++ "\n" ++ groupText entry.1) := by
  have hstore := h.store
  rw [partGroups_songParts] at hstore
  change compilation.store.render = _
  rw [BlockStore.render, hstore, List.zipIdx_map, List.map_map]
  rfl

/-! ### Labels of groups -/

/-- A group at a place of the song is one of its groups. -/
theorem mem_songGroups_of_groupAt {position place number : Nat} {group : List Slot}
    (h : groupAt encoder tuning patterns position place number = some group) :
    group ∈ songGroups encoder tuning patterns := by
  simp only [groupAt, Option.bind_eq_bind, Option.bind_eq_some_iff] at h
  obtain ⟨pattern, hpattern, channel, hchannel, hgroup⟩ := h
  exact List.mem_flatMap.mpr ⟨pattern, List.mem_of_getElem? hpattern,
    List.mem_flatMap.mpr ⟨channel, List.mem_of_getElem? hchannel, List.mem_of_getElem? hgroup⟩⟩

/-- The place of a group among the distinct ones determines it. -/
theorem eq_of_idxOf_eq {groups : List (List Slot)} {first second : List Slot}
    (hfirst : first ∈ groups) (hsecond : second ∈ groups)
    (h : groups.eraseDups.idxOf first = groups.eraseDups.idxOf second) : first = second := by
  have hone := List.idxOf_lt_length_of_mem (List.mem_eraseDups.mpr hfirst)
  have htwo := List.idxOf_lt_length_of_mem (List.mem_eraseDups.mpr hsecond)
  calc first = groups.eraseDups[groups.eraseDups.idxOf first] := (List.getElem_idxOf hone).symm
    _ = groups.eraseDups[groups.eraseDups.idxOf second] := by simp only [h]
    _ = second := List.getElem_idxOf htwo

/-- The value of a placed channel leads to its entry. -/
theorem find?_rows {voices : List (Nat × Voice)} {placement : Placement}
    (hcapacity : ∀ kind : TableKind, countOf kind voices ≤ kind.capacity)
    (h : placement ∈ placements voices) :
    (((tableEntries .high (placements voices)).map rowOf ++
      (tableEntries .low (placements voices)).map rowOf).find? fun row ↦
        row.index + 1 = placement.index + 1) = some (rowOf placement.entry) := by
  rw [← List.head?_filter, List.filter_append, filter_map_rowOf, filter_map_rowOf,
    filter_index_tables hcapacity h, filter_index_tables hcapacity h]
  cases placement.voice.kind <;> rfl

/-- The texts of a compilation that follows a song give every group the label of its place among
the distinct groups. -/
theorem Follows.readLabel_eq {compilation : Compilation}
    (h : Follows encoder tuning (songParts patterns) compilation)
    (hpatterns : ∀ pattern ∈ patterns, pattern.channels.length = 2)
    {position place number : Nat} (hposition : position < channelsPerPattern) {group : List Slot}
    (hgroup : groupAt encoder tuning patterns position place number = some group) :
    readLabel compilation.fragments position place number =
      some (blockLabel ((songGroups encoder tuning patterns).eraseDups.idxOf group)) := by
  simp only [groupAt, Option.bind_eq_bind, Option.bind_eq_some_iff] at hgroup
  obtain ⟨pattern, hpattern, channel, hchannel, hnumber⟩ := hgroup
  obtain ⟨other, placement, hother, hplacement, hvalue, hvoice⟩ :=
    exists_placement encoder tuning hpatterns hposition hpattern
  obtain rfl : channel = other := Option.some.inj (hchannel.symm.trans hother)
  have hhigh := h.readTable .high
  have hlow := h.readTable .low
  have hsequence : readSequence (compilation.fragments.sequence position) =
      some (sequenceValues position (placements (songVoices encoder tuning patterns))) := by
    rw [h.sequence_eq hposition, Readback.readSequence_renderSequence]
  have hrow := find?_rows h.countOf_songVoices_le hplacement
  simp only [Fragments.table] at hhigh hlow
  simp only [readLabel, Option.bind_eq_bind, hsequence, hhigh, hlow, hvalue,
    Option.bind_some, hrow, labels_entry hvoice, List.getElem?_map, hnumber, Option.map_some]

/-- Slots are heard alike if they have the same bytes and accents. -/
theorem map_heard_eq {first second : List Slot}
    (hbytes : first.map Slot.byte = second.map Slot.byte)
    (haccents : first.map Slot.accent = second.map Slot.accent) :
    first.map heard = second.map heard := by
  have hzip : ∀ slots : List Slot, slots.map heard =
      ((slots.map Slot.byte).map UInt8.toNat).zip (slots.map Slot.accent) := by
    intro slots
    rw [List.map_map, List.zip_map']
    rfl
  rw [hzip, hzip, hbytes, haccents]

/-- Groups of a compiled song have the same label exactly when they sound the same. -/
theorem Follows.readLabel_eq_iff {compilation : Compilation}
    (h : Follows encoder tuning (songParts patterns) compilation)
    (hpatterns : ∀ pattern ∈ patterns, pattern.channels.length = 2)
    {position place number position' place' number' : Nat}
    (hposition : position < channelsPerPattern) (hposition' : position' < channelsPerPattern)
    {first second : List Slot}
    (hfirst : groupAt encoder tuning patterns position place number = some first)
    (hsecond : groupAt encoder tuning patterns position' place' number' = some second) :
    readLabel compilation.fragments position place number =
        readLabel compilation.fragments position' place' number' ↔
      first.map Slot.byte = second.map Slot.byte ∧
        first.map Slot.accent = second.map Slot.accent := by
  have hgroups := h.groups
  rw [partGroups_songParts] at hgroups
  have hone := mem_songGroups_of_groupAt hfirst
  have htwo := mem_songGroups_of_groupAt hsecond
  rw [h.readLabel_eq hpatterns hposition hfirst, h.readLabel_eq hpatterns hposition' hsecond]
  constructor
  · intro hlabel
    have hidx := Readback.blockLabel_injective (Option.some.inj hlabel)
    rw [eq_of_idxOf_eq hone htwo hidx]
    exact ⟨rfl, rfl⟩
  · rintro ⟨hbytes, haccents⟩
    rw [(hgroups first hone).eq_of_map_heard_eq (hgroups second htwo)
      (map_heard_eq hbytes haccents)]

/-! ### Labels defined and used -/

/-- The labels of the blocks, in the order in which they are defined. -/
theorem map_fst_blocks (groups : List (List Slot)) :
    ((groups.zipIdx.map fun entry ↦ (blockLabel entry.2, entry.1.map heard)).map Prod.fst) =
      (List.range groups.length).map blockLabel := by
  rw [List.range_eq_range', ← List.zipIdx_map_snd 0 groups, List.map_map, List.map_map]
  rfl

/-- Every label is defined once. -/
theorem count_blockLabel {size number : Nat} (h : number < size) :
    ((List.range size).map blockLabel).count (blockLabel number) = 1 := by
  have hnodup : ((List.range size).map blockLabel).Nodup :=
    List.Pairwise.map blockLabel (fun _ _ hne heq ↦ hne (Readback.blockLabel_injective heq))
      List.nodup_range
  rw [hnodup.count, if_pos (List.mem_map_of_mem (List.mem_range.mpr h))]

/-- The rows of both tables. -/
def songRows (encoder : Encoder) (tuning : UInt8) (patterns : List Pattern) : List Row :=
  (tableEntries .high (placements (songVoices encoder tuning patterns))).map rowOf ++
    (tableEntries .low (placements (songVoices encoder tuning patterns))).map rowOf

/-- The rows of a song are those of the voices that were placed. -/
theorem mem_songRows {row : Row} : row ∈ songRows encoder tuning patterns ↔
    ∃ placement ∈ placements (songVoices encoder tuning patterns),
      row = rowOf placement.entry := by
  simp only [songRows, tableEntries, placedIn, List.mem_append, List.mem_map, List.mem_filter]
  constructor
  · rintro (⟨_, ⟨placement, ⟨hmem, -⟩, rfl⟩, rfl⟩ | ⟨_, ⟨placement, ⟨hmem, -⟩, rfl⟩, rfl⟩)
    · exact ⟨placement, hmem, rfl⟩
    · exact ⟨placement, hmem, rfl⟩
  · rintro ⟨placement, hmem, rfl⟩
    cases hkind : placement.voice.kind with
    | high => exact .inl ⟨_, ⟨placement, ⟨hmem, decide_eq_true hkind⟩, rfl⟩, rfl⟩
    | low => exact .inr ⟨_, ⟨placement, ⟨hmem, decide_eq_true hkind⟩, rfl⟩, rfl⟩

/-- A label is used exactly when it is the label of a group of the song. -/
theorem exists_row_iff {label : String} :
    (∃ row ∈ songRows encoder tuning patterns, label ∈ row.labels) ↔
      ∃ group ∈ songGroups encoder tuning patterns,
        label = blockLabel ((songGroups encoder tuning patterns).eraseDups.idxOf group) := by
  constructor
  · rintro ⟨row, hrow, hlabel⟩
    obtain ⟨placement, hplacement, rfl⟩ := mem_songRows.mp hrow
    obtain ⟨part, hpart, hvoice⟩ := exists_part hplacement
    rw [labels_entry (Prod.mk.inj hvoice).2.symm] at hlabel
    obtain ⟨group, hgroup, rfl⟩ := List.mem_map.mp hlabel
    refine ⟨group, ?_, rfl⟩
    rw [← partGroups_songParts]
    exact List.mem_flatMap.mpr ⟨part, hpart, hgroup⟩
  · rintro ⟨group, hgroup, rfl⟩
    rw [← partGroups_songParts] at hgroup
    obtain ⟨part, hpart, hmem⟩ := List.mem_flatMap.mp hgroup
    obtain ⟨placement, hplacement, hvoice⟩ := exists_placement_of_part hpart
    refine ⟨_, mem_songRows.mpr ⟨placement, hplacement, rfl⟩, ?_⟩
    rw [labels_entry (Prod.mk.inj hvoice).2]
    exact List.mem_map.mpr ⟨group, hmem, rfl⟩

/-- The texts of a compiled song hold each of its groups once, under a label that counts the
distinct groups as they first occur, and the tables use exactly these labels. -/
theorem compilePatterns_storesOnce {fragments : Fragments}
    (h : compilePatterns encoder tuning patterns = .ok fragments) :
    StoresOnce encoder tuning patterns fragments := by
  obtain ⟨compilation, rfl, hfollows, hplayable⟩ := exists_compilation h
  refine ⟨hfollows.patterns_eq, ?label, ?uses⟩
  case label =>
    intro position place number position' place' number' first second hposition hposition'
      hfirst hsecond
    refine ⟨?_, hfollows.readLabel_eq_iff hplayable.channels hposition hposition' hfirst hsecond⟩
    rw [hfollows.readLabel_eq hplayable.channels hposition hfirst]
    rfl
  case uses =>
    refine ⟨_, _, _, hfollows.readTable .high, hfollows.readTable .low, hfollows.readBlocks, ?_, ?_⟩
    all_goals rw [map_fst_blocks]
    · intro label hlabel
      obtain ⟨number, hnumber, rfl⟩ := List.mem_map.mp hlabel
      have hlt := List.mem_range.mp hnumber
      refine exists_row_iff.mpr ⟨_, List.mem_eraseDups.mp (List.getElem_mem hlt), ?_⟩
      rw [(nodup_eraseDups _).idxOf_getElem]
    · intro row hrow label hlabel
      obtain ⟨group, hgroup, rfl⟩ := exists_row_iff.mp ⟨row, hrow, hlabel⟩
      exact count_blockLabel (List.idxOf_lt_length_of_mem (List.mem_eraseDups.mpr hgroup))

/-- Two patterns that share all their groups are stored once. -/
theorem storesOnce_twoPatterns :
    ∃ fragments, compilePatterns (fun _ step ↦ step.sound) 0 twoPatterns = .ok fragments ∧
      StoresOnce (fun _ step ↦ step.sound) 0 twoPatterns fragments := by
  obtain ⟨fragments, hok⟩ := exists_fragments_twoPatterns
  exact ⟨fragments, hok, compilePatterns_storesOnce hok⟩

end StepSequencer
