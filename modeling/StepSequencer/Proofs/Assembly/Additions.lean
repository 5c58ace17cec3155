import StepSequencer.Proofs.Assembly.Placement
import StepSequencer.Proofs.Calls

/-!
# Every entry is played once

A run adds voices for physical channels, starting with an empty arrangement; calls for a third
channel or a full table fail. Only the calls that succeeded count: `Places.add_ok` and
`Places.add_error` are the steps which show that the arrangement is at any time the one of these
calls, `arranged`, with no table over its capacity. The rest reads this arrangement off the list
of placements.

The values of both sequences and the entries of both tables are two ways to cut the same list of
placements, once by channel and once by table (`perm_sequences`, `perm_tables`). Since no index
occurs twice, every entry has one place in the sequences.
-/

set_option autoImplicit false
set_option relaxedAutoImplicit false

namespace StepSequencer

/-! ### Two ways to cut the placements -/

section Placements

variable {voices : List (Nat × Voice)}

/-- The values of placements. -/
def placementValues (placements : List Placement) : List Nat :=
  placements.map fun placement ↦ placement.index + 1

/-- The physical channel of a placement is that of a voice, and so in range if those of the voices
are. -/
theorem channel_lt_of_mem_placements (hchannels : ∀ item ∈ voices, item.1 < channelsPerPattern)
    {placement : Placement} (h : placement ∈ placements voices) :
    placement.channel < channelsPerPattern := by
  have hmem := List.mem_map_of_mem (f := fun placement : Placement ↦
    (placement.channel, placement.voice)) h
  rw [placements, map_voice_numbered] at hmem
  exact hchannels _ hmem

/-- A sequence names the placements on its channel. -/
theorem sequence_arranged (hchannels : ∀ item ∈ voices, item.1 < channelsPerPattern)
    (channel : Nat) :
    (arranged voices).sequence channel = sequenceValues channel (placements voices) := by
  match channel with
  | 0 => rfl
  | 1 => rfl
  | channel + 2 =>
    have hnone : ((placements voices).filter fun placement ↦
        placement.channel = channel + 2) = [] := by
      refine List.filter_eq_nil_iff.mpr fun placement hplacement hchannel ↦ ?_
      have hlt := channel_lt_of_mem_placements hchannels hplacement
      rw [of_decide_eq_true hchannel, channelsPerPattern] at hlt
      omega
    rw [sequenceValues, hnone]
    rfl

/-- The values in both sequences are the values of all placements. -/
theorem perm_sequences (hchannels : ∀ item ∈ voices, item.1 < channelsPerPattern) :
    (sequenceValues 0 (placements voices) ++ sequenceValues 1 (placements voices)).Perm
      (placementValues (placements voices)) := by
  have hsecond : ((placements voices).filter fun placement ↦ placement.channel = 1) =
      (placements voices).filter fun placement ↦ !decide (placement.channel = 0) := by
    refine List.filter_congr fun placement hplacement ↦ ?_
    have hlt := channel_lt_of_mem_placements hchannels hplacement
    rw [channelsPerPattern] at hlt
    rw [← decide_not, decide_eq_decide]
    omega
  rw [sequenceValues, sequenceValues, hsecond, ← List.map_append]
  exact (List.filter_append_perm _ _).map _

/-- The entries of a table are numbered from its base on without gaps. -/
theorem map_index_tableEntries (kind : TableKind) (voices : List (Nat × Voice)) :
    (tableEntries kind (placements voices)).map Entry.index =
      List.range' kind.base (countOf kind voices) := by
  rw [tableEntries, List.map_map]
  exact map_index_numbered kind (fun _ ↦ 0) voices

/-- The entries of both tables have the values of all placements. -/
theorem perm_tables (voices : List (Nat × Voice)) :
    ((tableEntries .high (placements voices) ++ tableEntries .low (placements voices)).map
      fun entry ↦ entry.index + 1).Perm (placementValues (placements voices)) := by
  have hlow : placedIn .low (placements voices) =
      (placements voices).filter fun placement ↦ !decide (placement.voice.kind = .high) := by
    refine List.filter_congr fun placement _ ↦ ?_
    cases placement.voice.kind <;> rfl
  rw [tableEntries, tableEntries, hlow, placedIn, ← List.map_append, List.map_map]
  exact (List.filter_append_perm _ _).map _

/-- The blocks in a table are those of its voices, in order. -/
theorem map_blocks_tableEntries (kind : TableKind) (voices : List (Nat × Voice)) :
    (tableEntries kind (placements voices)).map Entry.blocks =
      (voices.filter fun item ↦ item.2.kind = kind).map fun item ↦ item.2.blocks := by
  have hvoices := map_voice_numbered (fun _ ↦ 0) voices
  calc (tableEntries kind (placements voices)).map Entry.blocks =
      (((placements voices).map fun placement ↦ (placement.channel, placement.voice)).filter
        fun item ↦ item.2.kind = kind).map fun item ↦ item.2.blocks := by
        rw [tableEntries, placedIn, List.filter_map, List.map_map, List.map_map]
        rfl
    _ = (voices.filter fun item ↦ item.2.kind = kind).map fun item ↦ item.2.blocks := by
        rw [placements, hvoices]

/-! ### Values -/

/-- The value of a placement lies in the range of its table. -/
theorem value_bounds (hroom : ∀ kind : TableKind, countOf kind voices ≤ kind.capacity)
    {placement : Placement} (h : placement ∈ placements voices) :
    placement.voice.kind.base < placement.index + 1 ∧
      placement.index + 1 ≤ placement.voice.kind.base + placement.voice.kind.capacity := by
  have hbounds := index_bounds (mem_placedIn h)
  have hcapacity := hroom placement.voice.kind
  omega

/-- A value up to 128 belongs to the table for full volume. -/
theorem value_le_iff (hroom : ∀ kind : TableKind, countOf kind voices ≤ kind.capacity)
    {placement : Placement} (h : placement ∈ placements voices) :
    placement.index + 1 ≤ 128 ↔ placement.voice.kind = .high :=
  index_lt_iff hroom (mem_placedIn h)

/-- A value from 129 on belongs to the table for low volume. -/
theorem le_value_iff (hroom : ∀ kind : TableKind, countOf kind voices ≤ kind.capacity)
    {placement : Placement} (h : placement ∈ placements voices) :
    129 ≤ placement.index + 1 ↔ placement.voice.kind = .low := by
  have hlow : ¬ placement.voice.kind = .high ↔ placement.voice.kind = .low := by
    cases placement.voice.kind <;> decide
  rw [← hlow, ← value_le_iff hroom h]
  omega

/-- The values of a table follow each other without a gap. -/
theorem placementValues_placedIn (kind : TableKind) (voices : List (Nat × Voice)) :
    placementValues (placedIn kind (placements voices)) =
      List.range' (kind.base + 1) (countOf kind voices) := by
  have hindices := map_index_numbered kind (fun _ ↦ 0) voices
  have hvalues : (List.range' kind.base (countOf kind voices)).map (1 + ·) =
      List.range' (1 + kind.base) (countOf kind voices) := List.map_add_range' ..
  rw [Nat.add_zero] at hindices
  rw [Nat.add_comm kind.base, ← hvalues, ← hindices, List.map_map]
  exact List.map_congr_left fun placement _ ↦ Nat.add_comm placement.index 1

/-- While there is room in both tables no two placements share a value: those of the high table stay
below the first of the low one. -/
theorem nodup_placementValues
    (hroom : ∀ kind : TableKind, countOf kind voices ≤ kind.capacity) :
    (placementValues (placements voices)).Nodup := by
  have hsplit : (tableEntries .high (placements voices) ++
      tableEntries .low (placements voices)).map (fun entry ↦ entry.index + 1) =
      List.range' 1 (countOf .high voices) ++ List.range' 129 (countOf .low voices) := by
    rw [List.map_append, tableEntries, tableEntries, List.map_map, List.map_map]
    exact congr (congrArg _ (placementValues_placedIn .high voices))
      (placementValues_placedIn .low voices)
  have hcapacity := hroom .high
  rw [TableKind.capacity] at hcapacity
  rw [← (perm_tables voices).nodup_iff, hsplit]
  refine List.nodup_append.mpr ⟨List.nodup_range', List.nodup_range', ?_⟩
  intro first hfirst second hsecond
  rw [List.mem_range'_1] at hfirst hsecond
  omega

/-- Different placements have different values. -/
theorem eq_of_value_eq (hroom : ∀ kind : TableKind, countOf kind voices ≤ kind.capacity)
    {first second : Placement} (hfirst : first ∈ placements voices)
    (hsecond : second ∈ placements voices) (h : first.index + 1 = second.index + 1) :
    first = second := by
  obtain ⟨place, hplace⟩ := List.getElem?_of_mem hfirst
  obtain ⟨other, hother⟩ := List.getElem?_of_mem hsecond
  have hlength : place < (placementValues (placements voices)).length := by
    rw [placementValues, List.length_map]
    exact (List.getElem?_eq_some_iff.mp hplace).1
  have hsame : place = other := by
    refine (List.getElem?_inj hlength (nodup_placementValues hroom)).mp ?_
    rw [placementValues, List.getElem?_map, List.getElem?_map, hplace, hother, Option.map_some,
      Option.map_some, h]
  rw [hsame, hother] at hplace
  exact (Option.some.inj hplace).symm

theorem mem_sequenceValues {channel value : Nat} :
    value ∈ sequenceValues channel (placements voices) ↔
      ∃ placement ∈ placements voices, placement.channel = channel ∧
        placement.index + 1 = value := by
  simp [sequenceValues, and_assoc]

theorem mem_tableEntries {kind : TableKind} {entry : Entry} :
    entry ∈ tableEntries kind (placements voices) ↔
      ∃ placement ∈ placements voices, placement.voice.kind = kind ∧
        placement.entry = entry := by
  simp [tableEntries, placedIn, and_assoc]

/-- The value of a placement is that of an entry in its own table only. -/
theorem exists_entry_iff (hroom : ∀ kind : TableKind, countOf kind voices ≤ kind.capacity)
    {placement : Placement} (h : placement ∈ placements voices) (kind : TableKind) :
    (∃ entry ∈ tableEntries kind (placements voices), entry.index + 1 = placement.index + 1) ↔
      placement.voice.kind = kind := by
  constructor
  · rintro ⟨entry, hentry, hvalue⟩
    obtain ⟨other, hother, hkind, rfl⟩ := mem_tableEntries.mp hentry
    rwa [← eq_of_value_eq hroom hother h hvalue]
  · intro hkind
    exact ⟨placement.entry, mem_tableEntries.mpr ⟨placement, h, hkind, rfl⟩, rfl⟩

/-- The values of one table in one sequence increase. -/
theorem increasing_sequenceValues (kind : TableKind) {belongs : Nat → Bool}
    (hbelongs : ∀ placement ∈ placements voices,
      belongs (placement.index + 1) = decide (placement.voice.kind = kind)) (channel : Nat) :
    ((sequenceValues channel (placements voices)).filter belongs).Pairwise (· < ·) := by
  have htable : (placementValues (placedIn kind (placements voices))).Pairwise (· < ·) := by
    rw [placementValues_placedIn]
    exact List.pairwise_lt_range' 1
  have hkind : placementValues (placedIn kind (placements voices)) =
      (placementValues (placements voices)).filter belongs := by
    rw [placementValues, placementValues, List.filter_map]
    refine congrArg _ (List.filter_congr fun placement hplacement ↦ ?_)
    exact (hbelongs placement hplacement).symm
  have hsublist : (sequenceValues channel (placements voices)).Sublist
      (placementValues (placements voices)) :=
    List.filter_sublist.map _
  rw [hkind] at htable
  exact htable.sublist (hsublist.filter belongs)

end Placements

/-! ### Runs of additions -/

namespace Arrangement

/-- Adds a voice for a physical channel, both given as one input. -/
def addCall (arrangement : Arrangement) (input : Nat × Voice) :
    Except AssemblyError Nat × Arrangement :=
  arrangement.add input.1 input.2

/-- The arrangement is the one of some voices. Each is for one of the two physical channels, and
there is room for all of them. -/
structure Places (arrangement : Arrangement) (voices : List (Nat × Voice)) : Prop where
  eq_arranged : arrangement = arranged voices
  channels : ∀ item ∈ voices, item.1 < channelsPerPattern
  room : ∀ kind : TableKind, countOf kind voices ≤ kind.capacity

theorem places_nil : Places {} [] where
  eq_arranged := rfl
  channels := by simp
  room := fun _ ↦ Nat.zero_le _

/-- A table holds the entries of the voices that were added to it, in order. -/
theorem Places.entries_eq {arrangement : Arrangement} {voices : List (Nat × Voice)}
    (h : Places arrangement voices) (kind : TableKind) :
    (arrangement.table kind).entries = tableEntries kind (placements voices) := by
  rw [h.eq_arranged, table_arranged]

/-- A sequence holds the values of the voices that were added on its channel, in order. -/
theorem Places.sequence_eq {arrangement : Arrangement} {voices : List (Nat × Voice)}
    (h : Places arrangement voices) (channel : Nat) :
    arrangement.sequence channel = sequenceValues channel (placements voices) := by
  rw [h.eq_arranged, sequence_arranged h.channels]

theorem Places.length_entries {arrangement : Arrangement} {voices : List (Nat × Voice)}
    (h : Places arrangement voices) (kind : TableKind) :
    (arrangement.table kind).entries.length = countOf kind voices := by
  rw [h.entries_eq, length_tableEntries]

/-- The blocks in a table are those of the voices that belong to it, in order. -/
theorem Places.map_blocks {arrangement : Arrangement} {voices : List (Nat × Voice)}
    (h : Places arrangement voices) (kind : TableKind) (belongs : Voice → Bool)
    (hbelongs : ∀ voice : Voice, decide (voice.kind = kind) = belongs voice) :
    (arrangement.table kind).entries.map Entry.blocks =
      (voices.filter fun item ↦ belongs item.2).map fun item ↦ item.2.blocks := by
  rw [h.entries_eq, map_blocks_tableEntries]
  exact congrArg _ (List.filter_congr fun item _ ↦ hbelongs item.2)

/-- Every value in a sequence belongs to a voice that was added. -/
theorem Places.exists_placement {arrangement : Arrangement} {voices : List (Nat × Voice)}
    (h : Places arrangement voices) {channel value : Nat}
    (hvalue : value ∈ arrangement.sequence channel) :
    ∃ placement ∈ placements voices, placement.index + 1 = value := by
  rw [h.sequence_eq] at hvalue
  obtain ⟨placement, hplacement, -, hindex⟩ := mem_sequenceValues.mp hvalue
  exact ⟨placement, hplacement, hindex⟩

/-- What a call does: it fails for a third channel, it fails when the table is full, and otherwise
the voice follows the others. -/
theorem Places.add_eq {arrangement : Arrangement} {voices : List (Nat × Voice)}
    (h : Places arrangement voices) (channel : Nat) (voice : Voice) :
    arrangement.add channel voice =
      if channelsPerPattern ≤ channel then (.error (.channelOutOfRange channel), arrangement)
      else if countOf voice.kind voices = voice.kind.capacity then
        (.error (.tableFull voice.kind), arrangement)
      else (.ok (voice.kind.base + countOf voice.kind voices + 1),
        arranged (voices ++ [(channel, voice)])) := by
  by_cases hchannel : channelsPerPattern ≤ channel
  · rw [if_pos hchannel, add, if_pos hchannel]
  · have hroom := h.room voice.kind
    rw [if_neg hchannel, h.eq_arranged, add_arranged voices (Nat.lt_of_not_le hchannel)]
    by_cases hfull : countOf voice.kind voices = voice.kind.capacity
    · rw [if_pos hfull, if_pos (Nat.le_of_eq hfull.symm)]
    · rw [if_neg hfull, if_neg (by omega)]

/-- A voice that is added follows the others, and there is still room for all. -/
theorem Places.add_ok {arrangement next : Arrangement} {voices : List (Nat × Voice)}
    (h : Places arrangement voices) {channel value : Nat} {voice : Voice}
    (hadd : arrangement.add channel voice = (.ok value, next)) :
    Places next (voices ++ [(channel, voice)]) := by
  rw [h.add_eq] at hadd
  by_cases hchannel : channelsPerPattern ≤ channel
  · rw [if_pos hchannel] at hadd
    cases hadd
  by_cases hfull : countOf voice.kind voices = voice.kind.capacity
  · rw [if_neg hchannel, if_pos hfull] at hadd
    cases hadd
  rw [if_neg hchannel, if_neg hfull] at hadd
  cases hadd
  refine ⟨rfl, ?_, ?_⟩
  · intro item hitem
    rcases List.mem_append.mp hitem with hbefore | hlast
    · exact h.channels item hbefore
    · rw [List.mem_singleton.mp hlast]
      exact Nat.lt_of_not_le hchannel
  · intro kind
    have hroom := h.room kind
    rw [countOf, List.countP_append, ← countOf, ← countOf, countOf_cons, countOf_nil]
    by_cases hkind : voice.kind = kind
    · rw [if_pos hkind]
      rw [hkind] at hfull
      omega
    · rw [if_neg hkind]
      exact hroom

/-- A call that fails changes nothing. -/
theorem Places.add_error {arrangement next : Arrangement} {voices : List (Nat × Voice)}
    (h : Places arrangement voices) {channel : Nat} {voice : Voice} {fault : AssemblyError}
    (hadd : arrangement.add channel voice = (.error fault, next)) : next = arrangement := by
  rw [h.add_eq] at hadd
  split at hadd
  · cases hadd
    rfl
  · split at hadd
    · cases hadd
      rfl
    · cases hadd

/-- After every run the arrangement is the one of the calls that succeeded. -/
theorem places_afterCalls (calls : List (Nat × Voice)) :
    Places (afterCalls addCall {} calls) (accepted (callLog addCall {} calls)) := by
  refine afterCalls_invariant (motive := fun arrangement log ↦
    Places arrangement (accepted log)) ?_ places_nil calls
  rintro arrangement log hbefore ⟨channel, voice⟩
  rw [addCall]
  rcases hadd : arrangement.add channel voice with ⟨fault | value, next⟩
  · rw [accepted_append_error, hbefore.add_error hadd]
    exact hbefore
  · rw [accepted_append_ok]
    exact hbefore.add_ok hadd

/-! ### Entries and values -/

/-- Every entry has its value at one place of one sequence: the value belongs to one placement,
which tells the channel. -/
theorem Places.exists_place {arrangement : Arrangement} {voices : List (Nat × Voice)}
    (h : Places arrangement voices) (kind : TableKind) {entry : Entry}
    (hentry : entry ∈ (arrangement.table kind).entries) :
    ∃ channel place : Nat, (arrangement.sequence channel)[place]? = some (entry.index + 1) ∧
      ∀ otherChannel otherPlace : Nat,
        (arrangement.sequence otherChannel)[otherPlace]? = some (entry.index + 1) →
          otherChannel = channel ∧ otherPlace = place := by
  rw [h.entries_eq] at hentry
  obtain ⟨placement, hplacement, -, rfl⟩ := mem_tableEntries.mp hentry
  have hmem : placement.index + 1 ∈ arrangement.sequence placement.channel := by
    rw [h.sequence_eq]
    exact mem_sequenceValues.mpr ⟨placement, hplacement, rfl, rfl⟩
  obtain ⟨place, hplace⟩ := List.getElem?_of_mem hmem
  refine ⟨placement.channel, place, hplace, ?_⟩
  intro otherChannel otherPlace hother
  obtain ⟨other, hmemOther, hchannel, hvalue⟩ := mem_sequenceValues.mp
    (h.sequence_eq otherChannel ▸ List.mem_of_getElem? hother)
  obtain rfl := eq_of_value_eq h.room hmemOther hplacement hvalue
  subst hchannel
  have hnodup : (arrangement.sequence other.channel).Nodup := by
    rw [h.sequence_eq]
    exact (nodup_placementValues h.room).sublist (List.filter_sublist.map _)
  have hlength := (List.getElem?_eq_some_iff.mp hother).1
  exact ⟨rfl, (List.getElem?_inj hlength hnodup).mp (hother.trans hplace.symm)⟩

/-- All that is known about an arrangement that was made by calls. The entries of a table are
numbered without gaps, within its capacity, and hold the blocks of the calls that succeeded. The
values of both sequences are the numbers of all entries, each plus one and once, and tell the
tables apart. A call fails only for a third channel or a full table, and then changes nothing. -/
structure WellNumbered (arrangement : Arrangement)
    (log : List ((Nat × Voice) × Except AssemblyError Nat)) : Prop where
  high_index : arrangement.high.entries.map Entry.index =
    List.range arrangement.high.entries.length
  high_length : arrangement.high.entries.length ≤ 128
  high_blocks : arrangement.high.entries.map Entry.blocks =
    ((accepted log).filter fun call ↦ !call.2.attenuate).map fun call ↦ call.2.blocks
  low_index : arrangement.low.entries.map Entry.index =
    List.range' 128 arrangement.low.entries.length
  low_length : arrangement.low.entries.length ≤ 127
  low_blocks : arrangement.low.entries.map Entry.blocks =
    ((accepted log).filter fun call ↦ call.2.attenuate).map fun call ↦ call.2.blocks
  values : (arrangement.sequence 0 ++ arrangement.sequence 1).Perm
    ((arrangement.high.entries ++ arrangement.low.entries).map fun entry ↦ entry.index + 1)
  values_nodup : (arrangement.sequence 0 ++ arrangement.sequence 1).Nodup
  played : ∀ entry ∈ arrangement.high.entries ++ arrangement.low.entries,
    ∃ channel place : Nat, (arrangement.sequence channel)[place]? = some (entry.index + 1) ∧
      ∀ otherChannel otherPlace : Nat,
        (arrangement.sequence otherChannel)[otherPlace]? = some (entry.index + 1) →
          otherChannel = channel ∧ otherPlace = place
  bounds : ∀ channel, ∀ value ∈ arrangement.sequence channel, 1 ≤ value ∧ value ≤ 255
  high_value : ∀ channel, ∀ value ∈ arrangement.sequence channel,
    (value ≤ 128 ↔ ∃ entry ∈ arrangement.high.entries, entry.index + 1 = value)
  low_value : ∀ channel, ∀ value ∈ arrangement.sequence channel,
    (129 ≤ value ↔ ∃ entry ∈ arrangement.low.entries, entry.index + 1 = value)
  increasing : ∀ channel,
    ((arrangement.sequence channel).filter fun value ↦ value ≤ 128).Pairwise (· < ·) ∧
      ((arrangement.sequence channel).filter fun value ↦ 129 ≤ value).Pairwise (· < ·)
  refused : ∀ channel voice fault, (arrangement.add channel voice).1 = .error fault ↔
    2 ≤ channel ∧ fault = .channelOutOfRange channel ∨
      channel < 2 ∧ (arrangement.table voice.kind).entries.length = voice.kind.capacity ∧
        fault = .tableFull voice.kind
  unchanged : ∀ channel voice fault, (arrangement.add channel voice).1 = .error fault →
    (arrangement.add channel voice).2 = arrangement

/-- Whatever calls are made one after the other, successful or not, the tables and the sequences
stay in step. -/
theorem wellNumbered_afterCalls (calls : List (Nat × Voice)) :
    WellNumbered (afterCalls addCall {} calls) (callLog addCall {} calls) := by
  have hplaces := places_afterCalls calls
  generalize afterCalls addCall {} calls = arrangement at hplaces
  generalize callLog addCall {} calls = log at hplaces
  have hhigh := hplaces.entries_eq .high
  have hlow := hplaces.entries_eq .low
  have hlengthHigh := hplaces.length_entries .high
  have hlengthLow := hplaces.length_entries .low
  simp only [table] at hhigh hlow hlengthHigh hlengthLow
  constructor
  case high_index =>
    rw [hlengthHigh, hhigh, map_index_tableEntries, List.range_eq_range']
    rfl
  case high_length => exact hlengthHigh ▸ hplaces.room .high
  case high_blocks =>
    refine hplaces.map_blocks .high (fun voice ↦ !voice.attenuate) fun voice ↦ ?_
    rw [Voice.kind]
    cases voice.attenuate <;> rfl
  case low_index =>
    rw [hlengthLow, hlow, map_index_tableEntries]
    rfl
  case low_length => exact hlengthLow ▸ hplaces.room .low
  case low_blocks =>
    refine hplaces.map_blocks .low Voice.attenuate fun voice ↦ ?_
    rw [Voice.kind]
    cases voice.attenuate <;> rfl
  case values =>
    rw [hplaces.sequence_eq, hplaces.sequence_eq, hhigh, hlow]
    exact (perm_sequences hplaces.channels).trans (perm_tables _).symm
  case values_nodup =>
    rw [hplaces.sequence_eq, hplaces.sequence_eq, (perm_sequences hplaces.channels).nodup_iff]
    exact nodup_placementValues hplaces.room
  case played =>
    intro entry hentry
    rcases List.mem_append.mp hentry with hentry | hentry
    · exact hplaces.exists_place .high hentry
    · exact hplaces.exists_place .low hentry
  case bounds =>
    intro channel value hvalue
    obtain ⟨placement, hplacement, rfl⟩ := hplaces.exists_placement hvalue
    have hbounds := value_bounds hplaces.room hplacement
    cases hkind : placement.voice.kind <;>
      simp only [hkind, TableKind.base, TableKind.capacity] at hbounds <;> omega
  case high_value =>
    intro channel value hvalue
    obtain ⟨placement, hplacement, rfl⟩ := hplaces.exists_placement hvalue
    rw [hhigh, exists_entry_iff hplaces.room hplacement, value_le_iff hplaces.room hplacement]
  case low_value =>
    intro channel value hvalue
    obtain ⟨placement, hplacement, rfl⟩ := hplaces.exists_placement hvalue
    rw [hlow, exists_entry_iff hplaces.room hplacement, le_value_iff hplaces.room hplacement]
  case increasing =>
    intro channel
    rw [hplaces.sequence_eq]
    constructor
    · refine increasing_sequenceValues .high (fun placement hplacement ↦ ?_) channel
      exact decide_eq_decide.mpr (value_le_iff hplaces.room hplacement)
    · refine increasing_sequenceValues .low (fun placement hplacement ↦ ?_) channel
      exact decide_eq_decide.mpr (le_value_iff hplaces.room hplacement)
  case refused =>
    intro channel voice fault
    rw [hplaces.add_eq, hplaces.length_entries, channelsPerPattern]
    by_cases hchannel : 2 ≤ channel
    · rw [if_pos hchannel]
      simp [hchannel, Nat.not_lt.mpr hchannel, eq_comm]
    · rw [if_neg hchannel]
      by_cases hfull : countOf voice.kind (accepted log) = voice.kind.capacity
      · simp [hchannel, hfull, Nat.lt_of_not_le hchannel, eq_comm]
      · simp [hchannel, hfull]
  case unchanged =>
    intro channel voice fault hadd
    exact hplaces.add_error (Prod.ext hadd rfl)

end Arrangement

end StepSequencer
