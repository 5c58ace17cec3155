import StepSequencer.Proofs.Assembly.Additions
import StepSequencer.Proofs.Assembly.Deduplication
import StepSequencer.Proofs.Assembly.Insertions

/-!
# A pattern without new groups can be left out

A pattern all of whose groups occur in the patterns before it adds no block. Without it the song
still compiles, since it has no fault that was not there before and no group that could collide
(`exists_compile_of_subset`), and every other channel keeps its blocks, because the distinct groups
are the same in the same order (`songGroups_eraseDups_without`).

What changes are the numbers behind the pattern. `numbered_raised` is the reason: voices that find
more entries in the tables get the same indices, raised by as many as there are in their own
table. `Omits` says what this means for the five texts.
-/

set_option autoImplicit false
set_option relaxedAutoImplicit false

namespace StepSequencer

open Json (decimal)
open Readback (Row rowOf)

/-! ### The song still compiles -/

section Compiles

variable {encoder : Encoder} {tuning : UInt8}

/-- The blocks of a store have distinct identities, so no two groups that it holds collide. -/
theorem Follows.not_hasCollision {parts : List Part} {compilation : Compilation}
    (h : Follows encoder tuning parts compilation) :
    ¬ HasCollision (partGroups encoder tuning parts) := by
  rintro ⟨first, hfirst, second, hsecond, htexts, hidentities⟩
  have hmem : ∀ group ∈ partGroups encoder tuning parts,
      groupBlock group ∈ compilation.store.blocks := by
    intro group hgroup
    rw [h.store]
    exact List.mem_map_of_mem (List.mem_eraseDups.mpr hgroup)
  have hsame := BlockStore.eq_of_identity_eq (hmem first hfirst) (hmem second hsecond) hidentities
  exact htexts (congrArg Block.text hsame)

/-- The groups that the compiler gets to are among those of the song. -/
theorem occurringGroups_subset (encoder : Encoder) (tuning : UInt8) (patterns : List Pattern) :
    occurringGroups encoder tuning patterns ⊆ songGroups encoder tuning patterns := by
  intro group hgroup
  obtain ⟨pattern, hpattern, hgroup⟩ := List.mem_flatMap.mp hgroup
  split at hgroup
  · obtain ⟨channel, hchannel, hgroup⟩ := List.mem_flatMap.mp hgroup
    refine List.mem_flatMap.mpr ⟨pattern, hpattern, List.mem_flatMap.mpr ⟨channel, hchannel, ?_⟩⟩
    unfold storedGroups at hgroup
    split at hgroup
    · exact List.takeWhile_subset _ hgroup
    · cases hgroup
  · cases hgroup

/-- A song that can be played compiles if all its groups occur in a song that compiles. -/
theorem exists_compile_of_subset {patterns others : List Pattern} {compilation : Compilation}
    (h : compile encoder tuning patterns = .ok compilation)
    (hplayable : Playable encoder tuning others)
    (hgroups : songGroups encoder tuning others ⊆ songGroups encoder tuning patterns) :
    ∃ other, compile encoder tuning others = .ok other := by
  have hnone : ¬ HasCollision (occurringGroups encoder tuning others) := by
    intro hcollision
    have hfollows := (follows_of_compile h).1
    refine hfollows.not_hasCollision (hcollision.mono ?_)
    rw [partGroups_songParts]
    exact List.Subset.trans (occurringGroups_subset encoder tuning others) hgroups
  have hagrees := compile_agrees encoder tuning others
  rw [songFaults_eq_nil_iff.mpr hplayable] at hagrees
  cases hcompile : compile encoder tuning others with
  | ok other => exact ⟨other, rfl⟩
  | error fault =>
    rw [hcompile] at hagrees
    rcases hagrees with hfault | hcollision
    · cases hfault
    · exact absurd hcollision hnone

/-- Without one of its patterns a song can still be played. -/
theorem Playable.without {first second : List Pattern} {pattern : Pattern}
    (h : Playable encoder tuning (first ++ [pattern] ++ second)) :
    Playable encoder tuning (first ++ second) := by
  have hmem : ∀ other ∈ first ++ second, other ∈ first ++ [pattern] ++ second := by
    intro other hother
    rw [List.append_assoc]
    exact (List.mem_append.mp hother).elim (List.mem_append_left _)
      fun hsecond ↦ List.mem_append_right _ (List.mem_append_right _ hsecond)
  have hcount : ∀ p : Channel → Bool, (songChannels (first ++ second)).countP p ≤
      (songChannels (first ++ [pattern] ++ second)).countP p := by
    intro p
    simp only [songChannels, List.flatMap_append, List.countP_append]
    omega
  constructor
  case channels => exact fun other hother ↦ h.channels other (hmem other hother)
  case steps => exact fun other hother ↦ h.steps other (hmem other hother)
  case lengths => exact fun other hother ↦ h.lengths other (hmem other hother)
  case codes => exact fun other hother ↦ h.codes other (hmem other hother)
  case high => exact Nat.le_trans (hcount _) h.high
  case low => exact Nat.le_trans (hcount _) h.low

end Compiles

/-! ### Groups and voices without the pattern -/

/-- Elements that occurred before do not count as first occurrences. -/
theorem eraseDups_append_append_of_subset {α : Type} [BEq α] [LawfulBEq α]
    {list others : List α} (h : others ⊆ list) (rest : List α) :
    (list ++ others ++ rest).eraseDups = (list ++ rest).eraseDups := by
  have hothers : others.removeAll list = [] := by
    refine List.filter_eq_nil_iff.mpr fun a ha ↦ ?_
    simpa using h ha
  have hrest : rest.removeAll (list ++ others) = rest.removeAll list := by
    refine List.filter_congr fun a _ ↦ ?_
    rw [Bool.not_inj_iff, Bool.eq_iff_iff]
    simp only [List.elem_eq_mem, decide_eq_true_eq, List.mem_append]
    exact ⟨fun hmem ↦ hmem.elim id fun hother ↦ h hother, Or.inl⟩
  rw [List.eraseDups_append, List.eraseDups_append, hothers, hrest, List.eraseDups_nil,
    List.append_nil, List.eraseDups_append]

section Voices

variable (encoder : Encoder) (tuning : UInt8)

/-- The voices of some patterns, whose blocks are counted among the distinct ones of some
groups. -/
def voicesIn (groups : List (List Slot)) (patterns : List Pattern) : List (Nat × Voice) :=
  (songParts patterns).map (Part.voice encoder tuning groups)

/-- The voices of a song name its own groups. -/
theorem songVoices_eq (patterns : List Pattern) : songVoices encoder tuning patterns =
    voicesIn encoder tuning (songGroups encoder tuning patterns) patterns := by
  rw [songVoices, partVoices, partGroups_songParts]
  rfl

theorem voicesIn_append (groups : List (List Slot)) (first second : List Pattern) :
    voicesIn encoder tuning groups (first ++ second) =
      voicesIn encoder tuning groups first ++ voicesIn encoder tuning groups second := by
  rw [voicesIn, songParts, List.flatMap_append, List.map_append]
  rfl

/-- The voices depend on the distinct groups alone. -/
theorem voicesIn_congr {groups others : List (List Slot)} (h : groups.eraseDups = others.eraseDups)
    (patterns : List Pattern) :
    voicesIn encoder tuning groups patterns = voicesIn encoder tuning others patterns := by
  refine List.map_congr_left fun part _ ↦ ?_
  rw [Part.voice, Part.voice, h]

theorem songGroups_append (first second : List Pattern) :
    songGroups encoder tuning (first ++ second) =
      songGroups encoder tuning first ++ songGroups encoder tuning second :=
  List.flatMap_append

variable {encoder tuning}

/-- A pattern without new groups leaves the distinct groups as they are. -/
theorem songGroups_eraseDups_without {first : List Pattern} {pattern : Pattern}
    (h : songGroups encoder tuning [pattern] ⊆ songGroups encoder tuning first)
    (second : List Pattern) :
    (songGroups encoder tuning (first ++ [pattern] ++ second)).eraseDups =
      (songGroups encoder tuning (first ++ second)).eraseDups := by
  rw [songGroups_append, songGroups_append, songGroups_append]
  exact eraseDups_append_append_of_subset h _

end Voices

/-! ### Indices behind the pattern -/

/-- The placement with an index that is higher by a number for its table. -/
def Placement.raised (extra : TableKind → Nat) (placement : Placement) : Placement :=
  { placement with index := placement.index + extra placement.voice.kind }

/-- Voices that find more entries in the tables get higher indices, and nothing else changes. -/
theorem numbered_raised (taken extra : TableKind → Nat) (voices : List (Nat × Voice)) :
    numbered (fun kind ↦ taken kind + extra kind) voices =
      (numbered taken voices).map (Placement.raised extra) := by
  induction voices generalizing taken with
  | nil => rfl
  | cons item rest ih =>
    obtain ⟨channel, voice⟩ := item
    have htaken : (fun kind ↦ taken kind + extra kind + if voice.kind = kind then 1 else 0) =
        fun kind ↦ (taken kind + if voice.kind = kind then 1 else 0) + extra kind := by
      funext kind
      exact Nat.add_right_comm _ _ _
    rw [numbered, numbered, htaken, ih, List.map_cons]
    refine congrArg (· :: _) ?_
    rw [Placement.raised, Nat.add_assoc]

/-- The rows of a table, given the placements in both tables. -/
def tableRows (kind : TableKind) (placements : List Placement) : List Row :=
  (tableEntries kind placements).map rowOf

theorem tableRows_append (kind : TableKind) (first second : List Placement) :
    tableRows kind (first ++ second) = tableRows kind first ++ tableRows kind second := by
  simp [tableRows, tableEntries, placedIn]

theorem sequenceValues_append (channel : Nat) (first second : List Placement) :
    sequenceValues channel (first ++ second) =
      sequenceValues channel first ++ sequenceValues channel second := by
  simp [sequenceValues]

theorem mem_tableRows {kind : TableKind} {placements : List Placement} {row : Row} :
    row ∈ tableRows kind placements ↔
      ∃ placement ∈ placements, placement.voice.kind = kind ∧ rowOf placement.entry = row := by
  simp [tableRows, tableEntries, placedIn, and_assoc]

/-- The row with the same labels and an index that is lower by some number. -/
def closedUp (count : Nat) (row : Row) : Row :=
  { row with index := row.index - count }

/-- The table that a value points into. -/
def kindOfValue (value : Nat) : TableKind :=
  if value ≤ 128 then .high else .low

/-- Closing up the rows of raised placements gives the rows that they had before. -/
theorem map_closedUp_tableRows (kind : TableKind) (extra : TableKind → Nat)
    (placements : List Placement) :
    (tableRows kind (placements.map (Placement.raised extra))).map (closedUp (extra kind)) =
      tableRows kind placements := by
  have hfilter : placedIn kind (placements.map (Placement.raised extra)) =
      (placedIn kind placements).map (Placement.raised extra) := by
    rw [placedIn, List.filter_map]
    rfl
  rw [tableRows, tableRows, tableEntries, tableEntries, hfilter, List.map_map, List.map_map,
    List.map_map, List.map_map]
  refine List.map_congr_left fun placement hplacement ↦ ?_
  have hkind : placement.voice.kind = kind := of_decide_eq_true (List.mem_filter.mp hplacement).2
  show Row.mk _ (placement.index + extra placement.voice.kind - extra kind) = _
  rw [hkind, Nat.add_sub_cancel]
  rfl

/-- Lowering the values of raised placements, each by the number for the table it points into,
gives the values that they had before. -/
theorem map_sub_sequenceValues {extra : TableKind → Nat} {placements : List Placement}
    (h : ∀ placement ∈ placements.map (Placement.raised extra),
      kindOfValue (placement.index + 1) = placement.voice.kind) (channel : Nat) :
    ((sequenceValues channel (placements.map (Placement.raised extra))).map fun value ↦
      value - extra (kindOfValue value)) = sequenceValues channel placements := by
  have hfilter : (placements.map (Placement.raised extra)).filter
      (fun placement ↦ placement.channel = channel) =
      (placements.filter fun placement ↦ placement.channel = channel).map
        (Placement.raised extra) := by
    rw [List.filter_map]
    rfl
  rw [sequenceValues, sequenceValues, hfilter, List.map_map, List.map_map]
  refine List.map_congr_left fun placement hplacement ↦ ?_
  have hkind := h _ (List.mem_map_of_mem (List.mem_filter.mp hplacement).1)
  show (placement.raised extra).index + 1 - extra (kindOfValue ((placement.raised extra).index + 1))
    = placement.index + 1
  rw [hkind]
  show placement.index + extra placement.voice.kind + 1 - extra placement.voice.kind = _
  omega

/-! ### The texts with and without the pattern -/

/-- The text of some rows of a table. -/
def tableText (rows : List Row) : String :=
  String.join (rows.map fun row ↦
    "    word " ++ ", ".intercalate row.labels ++ " ; " ++ decimal row.index ++ "\n")

/-- The rows of both tables around those of one pattern, and the values of both sequences around
those of the pattern. -/
structure Cut where
  before : TableKind → List Row
  own : TableKind → List Row
  after : TableKind → List Row
  earlier : Nat → List Nat
  value : Nat → Nat
  later : Nat → List Nat

/-- The texts of a song with a pattern at a place, and those of the song without the pattern. The
blocks are the same. The rows that the values of the pattern point to are gone from the tables,
one for each of its channels; the rows before them are the same, and those behind them keep their
labels and move up, so that no index is left out. Each sequence loses the value of the pattern,
and the values behind it point to the rows that moved up. -/
structure Omits (pattern : Pattern) (place : Nat) (cut : Cut) (whole part : Fragments) : Prop where
  patterns : part.patterns = whole.patterns
  table : ∀ kind,
    whole.table kind = tableText (cut.before kind ++ cut.own kind ++ cut.after kind) ∧
      part.table kind = tableText (cut.before kind ++
        (cut.after kind).map (closedUp (cut.own kind).length))
  mem_own : ∀ kind, ∀ row ∈ cut.before kind ++ cut.own kind ++ cut.after kind,
    row ∈ cut.own kind ↔ row.index + 1 = cut.value 0 ∨ row.index + 1 = cut.value 1
  length_own : ∀ kind, (cut.own kind).length = pattern.channels.countP fun channel ↦
    TableKind.ofAttenuation channel.attenuate = kind
  index : ∀ kind, (cut.before kind ++ (cut.after kind).map (closedUp (cut.own kind).length)).map
    Row.index = List.range' kind.base ((cut.before kind).length + (cut.after kind).length)
  sequence : ∀ position < 2, (cut.earlier position).length = place ∧
    whole.sequence position = Arrangement.renderSequence
      (cut.earlier position ++ cut.value position :: cut.later position) ∧
    part.sequence position = Arrangement.renderSequence
      (cut.earlier position ++ (cut.later position).map fun value ↦
        value - (cut.own (kindOfValue value)).length)

/-! ### The cut at two voices -/

section Around

variable (before : List (Nat × Voice)) (one two : Voice) (after : List (Nat × Voice))

/-- The voices of a pattern, each with its physical channel. -/
def pairOf (one two : Voice) : List (Nat × Voice) :=
  [(0, one), (1, two)]

/-- The placements of two voices behind others. -/
def ownPlacements : List Placement :=
  numbered (fun kind ↦ countOf kind before) (pairOf one two)

/-- The placements of voices behind others and two more. -/
def laterPlacements : List Placement :=
  (numbered (fun kind ↦ countOf kind before) after).map
    (Placement.raised fun kind ↦ countOf kind (pairOf one two))

/-- The cut at two voices between others. -/
def Cut.around : Cut where
  before := fun kind ↦ tableRows kind (placements before)
  own := fun kind ↦ tableRows kind (ownPlacements before one two)
  after := fun kind ↦ tableRows kind (laterPlacements before one two after)
  earlier := fun position ↦ sequenceValues position (placements before)
  value := fun position ↦ (sequenceValues position (ownPlacements before one two)).headD 0
  later := fun position ↦ sequenceValues position (laterPlacements before one two after)

/-- Voices behind others are numbered from where those end in each table. -/
theorem placements_append_voices : placements (before ++ after) =
    placements before ++ numbered (fun kind ↦ countOf kind before) after := by
  rw [placements, numbered_append]
  simp only [Nat.zero_add]
  rfl

/-- Voices between others raise the placements behind them, and only those. -/
theorem placements_around : placements (before ++ pairOf one two ++ after) =
    placements before ++ ownPlacements before one two ++
      laterPlacements before one two after := by
  have hcount : (fun kind ↦ countOf kind (before ++ pairOf one two)) =
      fun kind ↦ countOf kind before + countOf kind (pairOf one two) := by
    funext kind
    exact List.countP_append
  rw [placements_append_voices, placements_append_voices, hcount, numbered_raised]
  rfl

/-- The pattern has a row in a table for each of its voices that belongs there. -/
theorem length_tableRows_ownPlacements (kind : TableKind) :
    (tableRows kind (ownPlacements before one two)).length = countOf kind (pairOf one two) := by
  rw [tableRows, tableEntries, List.length_map, List.length_map]
  exact length_placedIn_numbered kind _ _

/-- The rows of a table are those before the pattern, its own, and those behind. -/
theorem tableRows_around (kind : TableKind) :
    tableRows kind (placements (before ++ pairOf one two ++ after)) =
      (Cut.around before one two after).before kind ++ (Cut.around before one two after).own kind ++
        (Cut.around before one two after).after kind := by
  rw [placements_around, tableRows_append, tableRows_append]
  rfl

/-- The rows without those of the two voices. -/
theorem tableRows_closedUp (kind : TableKind) :
    tableRows kind (placements (before ++ after)) =
      (Cut.around before one two after).before kind ++
        ((Cut.around before one two after).after kind).map
          (closedUp ((Cut.around before one two after).own kind).length) := by
  have hlater := map_closedUp_tableRows kind (fun kind ↦ countOf kind (pairOf one two))
    (numbered (fun kind ↦ countOf kind before) after)
  show _ = tableRows kind (placements before) ++ (tableRows kind (laterPlacements ..)).map
    (closedUp (tableRows kind (ownPlacements before one two)).length)
  rw [length_tableRows_ownPlacements, laterPlacements, hlater, placements_append_voices,
    tableRows_append]

/-- The pattern has one value in each sequence. -/
theorem sequenceValues_ownPlacements {position : Nat} (hposition : position < 2) :
    sequenceValues position (ownPlacements before one two) =
      [(Cut.around before one two after).value position] := by
  have hcases : position = 0 ∨ position = 1 := by omega
  rcases hcases with rfl | rfl
  · simp [Cut.around, ownPlacements, pairOf, numbered, sequenceValues]
  · simp [Cut.around, ownPlacements, pairOf, numbered, sequenceValues]

/-- A sequence holds the values before the pattern, its own, and those behind. -/
theorem sequenceValues_around {position : Nat} (hposition : position < 2) :
    sequenceValues position (placements (before ++ pairOf one two ++ after)) =
      (Cut.around before one two after).earlier position ++
        (Cut.around before one two after).value position ::
          (Cut.around before one two after).later position := by
  rw [placements_around, sequenceValues_append, sequenceValues_append,
    sequenceValues_ownPlacements before one two after hposition, List.append_assoc]
  rfl

variable {before one two after}

/-- A value tells the table of its placement, because the tables share no values. -/
theorem kindOfValue_eq {voices : List (Nat × Voice)}
    (hroom : ∀ kind : TableKind, countOf kind voices ≤ kind.capacity) {placement : Placement}
    (h : placement ∈ placements voices) :
    kindOfValue (placement.index + 1) = placement.voice.kind := by
  unfold kindOfValue
  by_cases hvalue : placement.index + 1 ≤ 128
  · rw [if_pos hvalue, (value_le_iff hroom h).mp hvalue]
  · rw [if_neg hvalue, (le_value_iff hroom h).mp (by omega)]

/-- The values without those of the two voices. -/
theorem sequenceValues_closedUp (hroom : ∀ kind : TableKind,
      countOf kind (before ++ pairOf one two ++ after) ≤ kind.capacity) (position : Nat) :
    sequenceValues position (placements (before ++ after)) =
      (Cut.around before one two after).earlier position ++
        ((Cut.around before one two after).later position).map fun value ↦
          value - ((Cut.around before one two after).own (kindOfValue value)).length := by
  have hkind : ∀ placement ∈ laterPlacements before one two after,
      kindOfValue (placement.index + 1) = placement.voice.kind := by
    intro placement hplacement
    refine kindOfValue_eq hroom ?_
    rw [placements_around]
    exact List.mem_append_right _ hplacement
  have hlater := map_sub_sequenceValues hkind position
  simp only [Cut.around, length_tableRows_ownPlacements]
  rw [placements_append_voices, sequenceValues_append, ← hlater]
  rfl

/-- A value of the two voices is the value of the placement of one of them. -/
theorem value_around_iff {position : Nat} (hposition : position < 2) {value : Nat} :
    value = (Cut.around before one two after).value position ↔
      ∃ placement ∈ ownPlacements before one two, placement.channel = position ∧
        placement.index + 1 = value := by
  have hmem : value ∈ sequenceValues position (ownPlacements before one two) ↔
      ∃ placement ∈ ownPlacements before one two, placement.channel = position ∧
        placement.index + 1 = value := by
    simp [sequenceValues, and_assoc]
  rw [← hmem, sequenceValues_ownPlacements before one two after hposition, List.mem_singleton]

/-- Of all rows, the values of the two voices point to their own ones only, because no index occurs
twice. -/
theorem mem_own_around_iff (hroom : ∀ kind : TableKind,
      countOf kind (before ++ pairOf one two ++ after) ≤ kind.capacity) {kind : TableKind}
    {row : Row} (hrow : row ∈ tableRows kind (placements (before ++ pairOf one two ++ after))) :
    row ∈ (Cut.around before one two after).own kind ↔
      row.index + 1 = (Cut.around before one two after).value 0 ∨
        row.index + 1 = (Cut.around before one two after).value 1 := by
  obtain ⟨placement, hplacement, hkind, rfl⟩ := mem_tableRows.mp hrow
  have hown : ∀ position < 2,
      (rowOf placement.entry).index + 1 = (Cut.around before one two after).value position →
        placement ∈ ownPlacements before one two := by
    intro position hposition hvalue
    obtain ⟨other, hother, -, hsame⟩ := (value_around_iff hposition).mp hvalue
    have hmem : other ∈ placements (before ++ pairOf one two ++ after) := by
      rw [placements_around]
      exact List.mem_append_left _ (List.mem_append_right _ hother)
    rwa [← eq_of_value_eq hroom hmem hplacement hsame]
  constructor
  · intro hmem
    obtain ⟨other, hother, -, hsame⟩ := mem_tableRows.mp hmem
    have hvalue : other.index + 1 = (rowOf placement.entry).index + 1 :=
      congrArg (fun row ↦ row.index + 1) hsame
    have hchannel : other.channel = 0 ∨ other.channel = 1 := by
      rcases List.mem_cons.mp hother with rfl | hother
      · exact Or.inl rfl
      · rw [List.mem_singleton.mp hother]
        exact Or.inr rfl
    rcases hchannel with hzero | hone
    · exact Or.inl ((value_around_iff (by decide)).mpr ⟨other, hother, hzero, hvalue⟩)
    · exact Or.inr ((value_around_iff (by decide)).mpr ⟨other, hother, hone, hvalue⟩)
  · rintro (hvalue | hvalue)
    · exact mem_tableRows.mpr ⟨placement, hown 0 (by decide) hvalue, hkind, rfl⟩
    · exact mem_tableRows.mpr ⟨placement, hown 1 (by decide) hvalue, hkind, rfl⟩

end Around

/-! ### Songs without the pattern -/

section Songs

variable {encoder : Encoder} {tuning : UInt8}

/-- The text of a table is that of the rows of all voices of the song. -/
theorem Follows.table_eq {patterns : List Pattern} {compilation : Compilation}
    (h : Follows encoder tuning (songParts patterns) compilation) (kind : TableKind) :
    compilation.fragments.table kind =
      tableText (tableRows kind (placements (songVoices encoder tuning patterns))) := by
  have hentries : (compilation.arrangement.table kind).entries =
      tableEntries kind (placements (songVoices encoder tuning patterns)) := by
    rw [h.arrangement, table_arranged]
    rfl
  rw [compilation.table_fragments, Readback.render_eq fun entry hentry position ↦ h.lt_size hentry,
    hentries, tableText, tableRows, List.map_map]
  refine congrArg String.join (List.map_congr_left fun entry _ ↦ ?_)
  simp [Readback.rowLine, rowOf, String.append_assoc]

/-- The voices of a pattern are those of its two channels. -/
theorem exists_voices_of_pattern (encoder : Encoder) (tuning : UInt8) {pattern : Pattern}
    (h : pattern.channels.length = 2) (groups : List (List Slot)) :
    ∃ one two : Voice, voicesIn encoder tuning groups [pattern] = pairOf one two ∧
      ∀ kind, countOf kind (pairOf one two) = pattern.channels.countP fun channel ↦
        TableKind.ofAttenuation channel.attenuate = kind := by
  match hchannels : pattern.channels, h with
  | [first, second], _ =>
    have hparts : songParts [pattern] =
        [⟨0, pattern.steps, first⟩, ⟨1, pattern.steps, second⟩] := by
      simp [songParts, Pattern.parts, hchannels]
    rw [voicesIn, hparts]
    exact ⟨_, _, rfl, fun kind ↦ rfl⟩

/-- Every pattern has one value in each sequence, whatever its blocks are. -/
theorem length_sequenceValues_voicesIn {patterns : List Pattern}
    (hpatterns : ∀ pattern ∈ patterns, pattern.channels.length = 2)
    {position : Nat} (hposition : position < channelsPerPattern) (groups : List (List Slot)) :
    (sequenceValues position (placements (voicesIn encoder tuning groups patterns))).length =
      patterns.length := by
  have hvoices := congrArg (List.countP fun item : Nat × Voice ↦ item.1 = position)
    (map_voice_numbered (fun _ ↦ 0) (voicesIn encoder tuning groups patterns))
  have hparts := congrArg List.length (map_some_filter_songParts hpatterns hposition)
  rw [List.length_map, List.length_map, ← List.countP_eq_length_filter] at hparts
  rw [List.countP_map] at hvoices
  rw [sequenceValues, List.length_map, ← List.countP_eq_length_filter, ← hparts]
  refine hvoices.trans ?_
  rw [voicesIn, List.countP_map]
  rfl

/-- The voices of a song are the same with and without a pattern that has no groups of its own,
those of the pattern apart. -/
theorem exists_voices_without {first : List Pattern} {pattern : Pattern}
    (hpattern : pattern.channels.length = 2)
    (hgroups : songGroups encoder tuning [pattern] ⊆ songGroups encoder tuning first)
    (second : List Pattern) :
    ∃ groups one two, songVoices encoder tuning (first ++ [pattern] ++ second) =
        voicesIn encoder tuning groups first ++ pairOf one two ++
          voicesIn encoder tuning groups second ∧
      songVoices encoder tuning (first ++ second) =
        voicesIn encoder tuning groups first ++ voicesIn encoder tuning groups second ∧
      ∀ kind, countOf kind (pairOf one two) = pattern.channels.countP fun channel ↦
        TableKind.ofAttenuation channel.attenuate = kind := by
  have hsame := songGroups_eraseDups_without hgroups second
  obtain ⟨one, two, hpair, hcount⟩ := exists_voices_of_pattern encoder tuning hpattern
    (songGroups encoder tuning (first ++ [pattern] ++ second))
  refine ⟨songGroups encoder tuning (first ++ [pattern] ++ second), one, two, ?_, ?_, hcount⟩
  · rw [songVoices_eq, voicesIn_append, voicesIn_append, hpair]
  · rw [songVoices_eq, ← voicesIn_congr encoder tuning hsame, voicesIn_append]

/-- The texts of two compilations, of a song and of the song without a pattern that has no groups
of its own. -/
theorem Follows.omits {first second : List Pattern} {pattern : Pattern} {whole part : Compilation}
    (hwhole : Follows encoder tuning (songParts (first ++ [pattern] ++ second)) whole)
    (hpart : Follows encoder tuning (songParts (first ++ second)) part)
    (hchannels : ∀ other ∈ first ++ [pattern] ++ second, other.channels.length = 2)
    (hgroups : songGroups encoder tuning [pattern] ⊆ songGroups encoder tuning first) :
    ∃ cut, Omits pattern first.length cut whole.fragments part.fragments := by
  obtain ⟨groups, one, two, hall, hleft, hcount⟩ := exists_voices_without
    (hchannels pattern (by simp)) hgroups second
  have hroom := hwhole.countOf_songVoices_le
  rw [hall] at hroom
  refine ⟨Cut.around (voicesIn encoder tuning groups first) one two
    (voicesIn encoder tuning groups second), ?_⟩
  constructor
  case patterns =>
    rw [hwhole.patterns_eq, hpart.patterns_eq, songGroups_eraseDups_without hgroups]
  case table =>
    intro kind
    rw [hwhole.table_eq, hpart.table_eq, hall, hleft, tableRows_around,
      tableRows_closedUp _ one two]
    exact ⟨rfl, rfl⟩
  case mem_own =>
    intro kind row hrow
    rw [← tableRows_around] at hrow
    exact mem_own_around_iff hroom hrow
  case length_own =>
    intro kind
    rw [← hcount]
    exact length_tableRows_ownPlacements _ one two kind
  case index =>
    intro kind
    have hrows := tableRows_closedUp (voicesIn encoder tuning groups first) one two
      (voicesIn encoder tuning groups second) kind
    have hindices := map_index_tableEntries kind (songVoices encoder tuning (first ++ second))
    have hlength := congrArg List.length hrows
    rw [List.length_append, List.length_map, tableRows, List.length_map,
      length_tableEntries] at hlength
    rw [← hrows, ← hlength, tableRows, List.map_map, ← hleft]
    exact hindices
  case sequence =>
    intro position hposition
    rw [hwhole.sequence_eq hposition, hpart.sequence_eq hposition, hall, hleft,
      sequenceValues_around _ one two _ hposition, sequenceValues_closedUp hroom]
    refine ⟨?_, rfl, rfl⟩
    exact length_sequenceValues_voicesIn (fun other hother ↦ hchannels other (by simp [hother]))
      hposition groups

/-- A pattern whose groups all occur in the patterns before it can be left out of a song that
compiles: the song still compiles, to the same blocks under the same labels, and the tables and
sequences lose what belongs to the pattern and close up behind it. -/
theorem compilePatterns_without {first second : List Pattern} {pattern : Pattern}
    {whole : Fragments}
    (h : compilePatterns encoder tuning (first ++ [pattern] ++ second) = .ok whole)
    (hgroups : ∀ channel ∈ pattern.channels,
      ∀ group ∈ channelGroups encoder tuning pattern.steps channel,
        group ∈ songGroups encoder tuning first) :
    ∃ part cut, compilePatterns encoder tuning (first ++ second) = .ok part ∧
      Omits pattern first.length cut whole part := by
  have hsubset : songGroups encoder tuning [pattern] ⊆ songGroups encoder tuning first := by
    intro group hgroup
    rw [songGroups, List.flatMap_singleton] at hgroup
    obtain ⟨channel, hchannel, hgroup⟩ := List.mem_flatMap.mp hgroup
    exact hgroups channel hchannel group hgroup
  obtain ⟨all, hall, rfl⟩ := compile_of_compilePatterns h
  obtain ⟨hfollows, hplayable⟩ := follows_of_compile hall
  obtain ⟨rest, hrest⟩ := exists_compile_of_subset hall hplayable.without (by
    rw [songGroups_append, songGroups_append, songGroups_append]
    intro group hgroup
    exact (List.mem_append.mp hgroup).elim
      (fun hfirst ↦ List.mem_append_left _ (List.mem_append_left _ hfirst))
      (List.mem_append_right _))
  obtain ⟨cut, homits⟩ := hfollows.omits (follows_of_compile hrest).1 hplayable.channels hsubset
  refine ⟨rest.fragments, cut, ?_, homits⟩
  rw [compilePatterns, hrest]
  rfl

/-- A pattern with groups of `twoPatterns` only, and a voice for each table. -/
def echo : Pattern :=
  ⟨2, [⟨false, [{ sound := some 7, accent := true }, {}]⟩, ⟨true, [{}, {}]⟩]⟩

/-- The third of five patterns uses groups of the others only, and can be left out. -/
theorem without_echo :
    (∀ channel ∈ echo.channels,
      ∀ group ∈ channelGroups (fun _ step ↦ step.sound) 0 echo.steps channel,
        group ∈ songGroups (fun _ step ↦ step.sound) 0 twoPatterns) ∧
    ∃ whole part cut,
      compilePatterns (fun _ step ↦ step.sound) 0 (twoPatterns ++ [echo] ++ twoPatterns) =
        .ok whole ∧
      compilePatterns (fun _ step ↦ step.sound) 0 (twoPatterns ++ twoPatterns) = .ok part ∧
        Omits echo 2 cut whole part := by
  have hgroups : ∀ channel ∈ echo.channels,
      ∀ group ∈ channelGroups (fun _ step ↦ step.sound) 0 echo.steps channel,
        group ∈ songGroups (fun _ step ↦ step.sound) 0 twoPatterns := by
    decide +kernel
  obtain ⟨fragments, hok⟩ := exists_fragments_twoPatterns
  obtain ⟨compilation, hcompile, -⟩ := compile_of_compilePatterns hok
  have hplayable : Playable (fun _ step ↦ step.sound) 0 (twoPatterns ++ [echo] ++ twoPatterns) :=
    ⟨by decide, by decide, by decide, by decide, by decide, by decide⟩
  obtain ⟨all, hall⟩ := exists_compile_of_subset hcompile hplayable (by decide +kernel)
  have hwhole : compilePatterns (fun _ step ↦ step.sound) 0
      (twoPatterns ++ [echo] ++ twoPatterns) = .ok all.fragments := by
    rw [compilePatterns, hall]
    rfl
  obtain ⟨part, cut, hpart, homits⟩ := compilePatterns_without hwhole hgroups
  exact ⟨hgroups, _, part, cut, hwhole, hpart, homits⟩

end Songs

end StepSequencer
