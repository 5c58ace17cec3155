import StepSequencer.Proofs.Assembly.AnyStore
import StepSequencer.Proofs.Assembly.Playback

/-!
# More patterns change nothing before them

A compilation goes on from pattern to pattern, and what it has made is never changed: blocks,
entries and values are added at the ends only (`Extends`, with a lemma for each function of the
compiler). So the patterns at the beginning of a song are compiled alike with or without the
others (`addPatterns_append`).

The texts are written at the end, when the labels of all blocks are known. That the texts of the
beginning are the beginnings of the texts needs one thing more: an entry names blocks that are
there when it is made, and their labels depend on their positions alone.
-/

set_option autoImplicit false
set_option relaxedAutoImplicit false

namespace StepSequencer

/-! ### States that go on from others -/

/-- Blocks, entries and values are only added at the ends. -/
structure Compilation.Extends (part whole : Compilation) : Prop where
  blocks : part.store.blocks <+: whole.store.blocks
  entries : ∀ kind, (part.arrangement.table kind).entries <+:
    (whole.arrangement.table kind).entries
  values : ∀ channel, part.arrangement.sequence channel <+: whole.arrangement.sequence channel

namespace Compilation

theorem Extends.refl (compilation : Compilation) : Extends compilation compilation where
  blocks := List.prefix_rfl
  entries := fun _ ↦ List.prefix_rfl
  values := fun _ ↦ List.prefix_rfl

/-- What extends an extension extends the first compilation. -/
theorem Extends.trans {first middle last : Compilation} (hfirst : Extends first middle)
    (hlast : Extends middle last) : Extends first last where
  blocks := hfirst.blocks.trans hlast.blocks
  entries := fun kind ↦ (hfirst.entries kind).trans (hlast.entries kind)
  values := fun channel ↦ (hfirst.values channel).trans (hlast.values channel)

end Compilation

/-! ### Adding a voice -/

namespace Arrangement

/-- Replacing a table by a longer one. -/
theorem prefix_table_withTable {arrangement : Arrangement} {kind : TableKind} {table : EntryTable}
    (h : (arrangement.table kind).entries <+: table.entries) (other : TableKind) :
    (arrangement.table other).entries <+:
      ((arrangement.withTable kind table).table other).entries := by
  cases kind <;> cases other <;> first | exact h | exact List.prefix_rfl

@[simp] theorem sequence_withTable (arrangement : Arrangement) (kind : TableKind)
    (table : EntryTable) (channel : Nat) :
    (arrangement.withTable kind table).sequence channel = arrangement.sequence channel := by
  cases kind <;> rfl

@[simp] theorem table_record (arrangement : Arrangement) (channel value : Nat)
    (kind : TableKind) : (arrangement.record channel value).table kind =
      arrangement.table kind := by
  unfold record
  split <;> cases kind <;> rfl

/-- Recording a value adds at the end of one sequence, if at all. -/
theorem prefix_sequence_record (arrangement : Arrangement) (channel value other : Nat) :
    arrangement.sequence other <+: (arrangement.record channel value).sequence other := by
  unfold record
  split <;> match other with
    | 0 => simp [sequence]
    | 1 => simp [sequence]
    | _ + 2 => simp [sequence]

/-- A table only grows at its end, also when there is no room for another entry. -/
theorem prefix_push (table : EntryTable) (blocks : List Nat) :
    table.entries <+: (table.push blocks).2.entries := by
  unfold EntryTable.push
  split
  · exact List.prefix_rfl
  · exact List.prefix_append _ _

/-- Adding a voice leaves what is in the tables and sequences where it is, also when it fails. -/
theorem prefix_add (arrangement : Arrangement) (channel : Nat) (voice : Voice) :
    (∀ kind, (arrangement.table kind).entries <+:
      ((arrangement.add channel voice).2.table kind).entries) ∧
      ∀ other, arrangement.sequence other <+:
        (arrangement.add channel voice).2.sequence other := by
  unfold add
  split
  · exact ⟨fun _ ↦ List.prefix_rfl, fun _ ↦ List.prefix_rfl⟩
  have hpush := prefix_push (arrangement.table (TableKind.ofAttenuation voice.attenuate))
    voice.blocks
  dsimp only
  split
  · rename_i fault table heq
    rw [heq] at hpush
    exact ⟨prefix_table_withTable hpush, by simp⟩
  · rename_i value table heq
    rw [heq] at hpush
    refine ⟨fun kind ↦ ?_, fun other ↦ ?_⟩
    · rw [table_record]
      exact prefix_table_withTable hpush kind
    · rw [← sequence_withTable arrangement (TableKind.ofAttenuation voice.attenuate) table]
      exact prefix_sequence_record _ channel value other

end Arrangement

/-! ### Compiling more -/

namespace Compilation

variable {encoder : Encoder} {tuning : UInt8}

/-- Adding a channel extends a compilation: the store, the tables and the sequences grow at their
ends. -/
theorem extends_of_addChannel {compilation next : Compilation} {steps : UInt8} {position : Nat}
    {channel : Channel}
    (h : compilation.addChannel encoder tuning steps position channel = .ok next) :
    Extends compilation next := by
  have hgrows := prefix_compileChannel encoder tuning steps channel compilation.store
  unfold addChannel at h
  split at h
  · cases h
  rename_i voice store hcompile
  rw [hcompile] at hgrows
  have hadded := compilation.arrangement.prefix_add position voice
  split at h
  · cases h
  rename_i value arrangement hadd
  rw [hadd] at hadded
  cases h
  exact ⟨hgrows, hadded.1, hadded.2⟩

/-- Adding the channels of a pattern extends a compilation. -/
theorem extends_of_addChannels {compilation next : Compilation} {steps : UInt8} {position : Nat}
    {channels : List Channel}
    (h : addChannels encoder tuning steps compilation position channels = .ok next) :
    Extends compilation next := by
  induction channels generalizing compilation position with
  | nil =>
    cases h
    exact Extends.refl _
  | cons channel rest ih =>
    unfold addChannels at h
    split at h
    · cases h
    rename_i middle hchannel
    exact (extends_of_addChannel hchannel).trans (ih h)

/-- Adding patterns extends a compilation. -/
theorem extends_of_addPatterns {compilation next : Compilation} {position : Nat}
    {patterns : List Pattern}
    (h : addPatterns encoder tuning compilation position patterns = .ok next) :
    Extends compilation next := by
  induction patterns generalizing compilation position with
  | nil =>
    cases h
    exact Extends.refl _
  | cons pattern rest ih =>
    unfold addPatterns at h
    split at h
    · cases h
    split at h
    · cases h
    rename_i middle hchannels
    exact (extends_of_addChannels hchannels).trans (ih h)

/-- Patterns are compiled from the state in which those before them were left. -/
theorem addPatterns_append (compilation : Compilation) (position : Nat)
    (first second : List Pattern) :
    addPatterns encoder tuning compilation position (first ++ second) =
      (addPatterns encoder tuning compilation position first).bind fun middle ↦
        addPatterns encoder tuning middle (position + first.length) second := by
  induction first generalizing compilation position with
  | nil => rfl
  | cons pattern rest ih =>
    rw [List.cons_append, addPatterns, addPatterns]
    split
    · rfl
    · split
      · rfl
      · rename_i middle _
        rw [ih, List.length_cons, Nat.add_assoc, Nat.add_comm 1]

end Compilation

/-! ### Texts -/

/-- What is written for the items at the start of a list starts what is written for all of them. -/
theorem prefix_join_map {α : Type} {first second : List α} (h : first <+: second)
    (text : α → String) :
    (String.join (first.map text)).toList <+: (String.join (second.map text)).toList := by
  obtain ⟨rest, rfl⟩ := h
  rw [List.map_append, String.join_append, String.toList_append]
  exact List.prefix_append _ _

theorem prefix_zipIdx {α : Type} {first second : List α} (h : first <+: second) :
    first.zipIdx <+: second.zipIdx := by
  obtain ⟨rest, rfl⟩ := h
  rw [List.zipIdx_append]
  exact List.prefix_append _ _

/-- The five texts are the beginnings of the five texts of another compilation. -/
structure Fragments.Begins (part whole : Fragments) : Prop where
  patterns : part.patterns.toList <+: whole.patterns.toList
  highTable : part.highTable.toList <+: whole.highTable.toList
  lowTable : part.lowTable.toList <+: whole.lowTable.toList
  sequence1 : part.sequence1.toList <+: whole.sequence1.toList
  sequence2 : part.sequence2.toList <+: whole.sequence2.toList

variable {encoder : Encoder} {tuning : UInt8}

/-- The labels come from two stores of different sizes, but each entry names blocks that its own
store has, and a label is made from the position alone. -/
theorem Compilation.Extends.prefix_render {first all : List Pattern} {part whole : Compilation}
    (h : part.Extends whole) (hpart : Follows encoder tuning (songParts first) part)
    (hwhole : Follows encoder tuning (songParts all) whole) (kind : TableKind) :
    ((part.arrangement.table kind).render part.store.labels).toList <+:
      ((whole.arrangement.table kind).render whole.store.labels).toList := by
  rw [Readback.render_eq fun entry hentry position ↦ hpart.lt_size hentry,
    Readback.render_eq fun entry hentry position ↦ hwhole.lt_size hentry]
  exact prefix_join_map (h.entries kind) _

/-- The texts of a compilation start those of one that extends it. -/
theorem Compilation.Extends.begins {first all : List Pattern} {part whole : Compilation}
    (h : part.Extends whole) (hpart : Follows encoder tuning (songParts first) part)
    (hwhole : Follows encoder tuning (songParts all) whole) :
    part.fragments.Begins whole.fragments where
  patterns := prefix_join_map (prefix_zipIdx h.blocks) _
  highTable := h.prefix_render hpart hwhole .high
  lowTable := h.prefix_render hpart hwhole .low
  sequence1 := prefix_join_map (h.values 0) _
  sequence2 := prefix_join_map (h.values 1) _

/-- A compilation of a song passes through one of its beginning. -/
theorem compile_of_append {first second : List Pattern} {whole : Compilation}
    (h : compile encoder tuning (first ++ second) = .ok whole) :
    ∃ part, compile encoder tuning first = .ok part ∧ part.Extends whole := by
  rw [compile, Compilation.addPatterns_append] at h
  cases hfirst : Compilation.addPatterns encoder tuning {} 0 first with
  | error fault =>
    rw [hfirst] at h
    cases h
  | ok part =>
    rw [hfirst] at h
    exact ⟨part, hfirst, Compilation.extends_of_addPatterns h⟩

/-- The beginning of a song that compiles can be compiled by itself, and appending the other
patterns changes neither a label nor a number: each text only goes on. -/
theorem compilePatterns_of_append {first second : List Pattern} {whole : Fragments}
    (h : compilePatterns encoder tuning (first ++ second) = .ok whole) :
    ∃ part, compilePatterns encoder tuning first = .ok part ∧ part.Begins whole := by
  obtain ⟨all, hall, rfl⟩ := compile_of_compilePatterns h
  obtain ⟨part, hpart, hextends⟩ := compile_of_append hall
  refine ⟨part.fragments, ?_, ?_⟩
  · rw [compilePatterns, hpart]
    rfl
  · exact hextends.begins (follows_of_compile hpart).1 (follows_of_compile hall).1

/-- The first pattern compiles as it does before the second. -/
theorem of_append_twoPatterns :
    ∃ part whole, compilePatterns (fun _ step ↦ step.sound) 0 twoPatterns = .ok whole ∧
      compilePatterns (fun _ step ↦ step.sound) 0 (twoPatterns.take 1) = .ok part ∧
        part.Begins whole := by
  obtain ⟨whole, hwhole⟩ := exists_fragments_twoPatterns
  rw [← List.take_append_drop 1 twoPatterns] at hwhole
  obtain ⟨part, hpart, hbegins⟩ := compilePatterns_of_append hwhole
  rw [List.take_append_drop] at hwhole
  exact ⟨part, whole, hwhole, hpart, hbegins⟩

end StepSequencer
