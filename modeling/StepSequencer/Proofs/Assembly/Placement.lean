import StepSequencer.Assembly.Arrangement

/-!
# Where the voices of a song are placed

Each voice that is added gets the next index of its table, and one more than the index goes into
the sequence of its physical channel. `numbered` assigns the indices to a list of voices, and
`arranged` reads both tables and both sequences off this one list. `add_arranged` is the step:
adding a voice to the arrangement of a list of voices gives the arrangement of the longer list,
or reports the table full when it holds as many entries as it can.

`map_index_numbered` gives the indices of a table in order, without gaps. So no index occurs
twice in a table (`filter_index_tableEntries`), and as long as no table is over its capacity the
indices of the two tables stay apart (`index_lt_iff`).
-/

set_option autoImplicit false
set_option relaxedAutoImplicit false

namespace StepSequencer

/-- The table a voice belongs to. -/
def Voice.kind (voice : Voice) : TableKind :=
  TableKind.ofAttenuation voice.attenuate

/-- A voice, the physical channel that plays it, and the index of its entry. -/
structure Placement where
  channel : Nat
  voice : Voice
  index : Nat
deriving DecidableEq, Repr

namespace Placement

/-- The entry of a placed voice. -/
def entry (placement : Placement) : Entry :=
  ⟨placement.index, placement.voice.blocks⟩

end Placement

/-- The number of voices that belong to a table. -/
def countOf (kind : TableKind) (voices : List (Nat × Voice)) : Nat :=
  voices.countP fun item ↦ item.2.kind = kind

@[simp] theorem countOf_nil (kind : TableKind) : countOf kind [] = 0 :=
  rfl

theorem countOf_cons (kind : TableKind) (item : Nat × Voice) (rest : List (Nat × Voice)) :
    countOf kind (item :: rest) = (if item.2.kind = kind then 1 else 0) + countOf kind rest := by
  simp [countOf, List.countP_cons, Nat.add_comm]

/-! ### Numbering -/

/-- The voices with their indices, where `taken` counts the entries that a table has already. -/
def numbered : (taken : TableKind → Nat) → List (Nat × Voice) → List Placement
  | _, [] => []
  | taken, (channel, voice) :: rest =>
    ⟨channel, voice, voice.kind.base + taken voice.kind⟩ ::
      numbered (fun kind ↦ taken kind + if voice.kind = kind then 1 else 0) rest

/-- The voices behind others are numbered on from the number of those. -/
theorem numbered_append (taken : TableKind → Nat) (first second : List (Nat × Voice)) :
    numbered taken (first ++ second) =
      numbered taken first ++ numbered (fun kind ↦ taken kind + countOf kind first) second := by
  induction first generalizing taken with
  | nil => simp [numbered]
  | cons item rest ih =>
    have hcount : (fun kind ↦ taken kind + countOf kind (item :: rest)) = fun kind ↦
        taken kind + (if item.2.kind = kind then 1 else 0) + countOf kind rest := by
      funext kind
      rw [countOf_cons, Nat.add_assoc]
    rw [List.cons_append, numbered, numbered, ih, hcount, List.cons_append]

/-- Numbering keeps the voices and their order. -/
theorem map_voice_numbered (taken : TableKind → Nat) (voices : List (Nat × Voice)) :
    ((numbered taken voices).map fun placement ↦ (placement.channel, placement.voice)) =
      voices := by
  induction voices generalizing taken with
  | nil => rfl
  | cons item rest ih => rw [numbered, List.map_cons, ih]

/-- The placements in a table. -/
def placedIn (kind : TableKind) (placements : List Placement) : List Placement :=
  placements.filter fun placement ↦ placement.voice.kind = kind

/-- The indices of a table follow each other without a gap. -/
theorem map_index_numbered (kind : TableKind) (taken : TableKind → Nat)
    (voices : List (Nat × Voice)) :
    (placedIn kind (numbered taken voices)).map Placement.index =
      List.range' (kind.base + taken kind) (countOf kind voices) := by
  induction voices generalizing taken with
  | nil => rfl
  | cons item rest ih =>
    obtain ⟨channel, voice⟩ := item
    rw [numbered, placedIn, countOf_cons]
    by_cases hkind : voice.kind = kind
    · rw [List.filter_cons_of_pos (by simpa using hkind), List.map_cons]
      have hrest := ih fun other ↦ taken other + if voice.kind = other then 1 else 0
      rw [placedIn] at hrest
      rw [hrest, if_pos hkind, Nat.add_comm 1, List.range'_succ, hkind, Nat.add_assoc]
    · rw [List.filter_cons_of_neg (by simpa using hkind)]
      have hrest := ih fun other ↦ taken other + if voice.kind = other then 1 else 0
      rw [placedIn] at hrest
      rw [hrest, if_neg hkind, Nat.zero_add, Nat.add_zero]

/-- A table gets as many placements as there are voices for it. -/
theorem length_placedIn_numbered (kind : TableKind) (taken : TableKind → Nat)
    (voices : List (Nat × Voice)) :
    (placedIn kind (numbered taken voices)).length = countOf kind voices := by
  have hlength := congrArg List.length (map_index_numbered kind taken voices)
  simpa using hlength

/-! ### Tables and sequences -/

/-- The entries of a table. -/
def tableEntries (kind : TableKind) (placements : List Placement) : List Entry :=
  (placedIn kind placements).map Placement.entry

/-- The values in the sequence of a physical channel. -/
def sequenceValues (channel : Nat) (placements : List Placement) : List Nat :=
  (placements.filter fun placement ↦ placement.channel = channel).map fun placement ↦
    placement.index + 1

/-- The voices with their indices in tables that were empty before. -/
def placements (voices : List (Nat × Voice)) : List Placement :=
  numbered (fun _ ↦ 0) voices

/-- The arrangement of some voices, each with the physical channel that plays it. -/
def arranged (voices : List (Nat × Voice)) : Arrangement where
  high := ⟨.high, tableEntries .high (placements voices)⟩
  low := ⟨.low, tableEntries .low (placements voices)⟩
  sequence1 := sequenceValues 0 (placements voices)
  sequence2 := sequenceValues 1 (placements voices)

/-- A table of the arrangement holds the entries of the placements in it. -/
theorem table_arranged (voices : List (Nat × Voice)) (kind : TableKind) :
    (arranged voices).table kind = ⟨kind, tableEntries kind (placements voices)⟩ := by
  cases kind <;> rfl

theorem length_tableEntries (kind : TableKind) (voices : List (Nat × Voice)) :
    (tableEntries kind (placements voices)).length = countOf kind voices := by
  rw [tableEntries, List.length_map, placements, length_placedIn_numbered]

/-- A new voice is placed behind the last one in its table. -/
theorem placements_append (voices : List (Nat × Voice)) (channel : Nat) (voice : Voice) :
    placements (voices ++ [(channel, voice)]) = placements voices ++
      [⟨channel, voice, voice.kind.base + countOf voice.kind voices⟩] := by
  rw [placements, numbered_append, placements]
  simp [numbered]

/-- Adding a voice extends the arrangement, unless the table of the voice is full. -/
theorem add_arranged (voices : List (Nat × Voice)) {channel : Nat}
    (hchannel : channel < channelsPerPattern) (voice : Voice) :
    (arranged voices).add channel voice =
      if voice.kind.capacity ≤ countOf voice.kind voices then
        (.error (.tableFull voice.kind), arranged voices)
      else (.ok (voice.kind.base + countOf voice.kind voices + 1),
        arranged (voices ++ [(channel, voice)])) := by
  have hkind : TableKind.ofAttenuation voice.attenuate = voice.kind := rfl
  rw [Arrangement.add, if_neg (Nat.not_le.mpr hchannel), hkind]
  dsimp only
  rw [table_arranged, EntryTable.push, length_tableEntries]
  dsimp only
  by_cases hfull : voice.kind.capacity ≤ countOf voice.kind voices
  · rw [if_pos hfull, if_pos hfull]
    refine Prod.ext rfl ?_
    cases voice.kind <;> rfl
  · rw [if_neg hfull, if_neg hfull]
    refine Prod.ext rfl ?_
    have hplaced := placements_append voices channel voice
    have hcases : channel = 0 ∨ channel = 1 := by
      rw [channelsPerPattern] at hchannel
      omega
    rcases hcases with rfl | rfl <;> cases hvoice : voice.kind <;>
      simp [Arrangement.withTable, Arrangement.record, arranged, tableEntries, sequenceValues,
        placedIn, Placement.entry, hplaced, hvoice]

/-! ### Indices -/

/-- Of elements that a function tells apart, exactly one has a given image. -/
theorem filter_eq_singleton {α β : Type} [DecidableEq β] {f : α → β} {list : List α} {a : α}
    (hnodup : (list.map f).Nodup) (h : a ∈ list) :
    (list.filter fun b ↦ f b = f a) = [a] := by
  induction list with
  | nil => simp at h
  | cons b rest ih =>
    rw [List.map_cons, List.nodup_cons] at hnodup
    rcases List.mem_cons.mp h with rfl | hrest
    · have hnone : (rest.filter fun c ↦ f c = f a) = [] := by
        refine List.filter_eq_nil_iff.mpr fun c hc heq ↦ hnodup.1 ?_
        rw [← of_decide_eq_true heq]
        exact List.mem_map_of_mem hc
      rw [List.filter_cons_of_pos (by simp), hnone]
    · have hne : f b ≠ f a := fun heq ↦ hnodup.1 (heq ▸ List.mem_map_of_mem hrest)
      rw [List.filter_cons_of_neg (by simpa using hne), ih hnodup.2 hrest]

theorem mem_placedIn {voices : List (Nat × Voice)} {placement : Placement}
    (h : placement ∈ placements voices) :
    placement ∈ placedIn placement.voice.kind (placements voices) :=
  List.mem_filter.mpr ⟨h, by simp⟩

/-- The entry of a placed voice is the only one of its table with its index. -/
theorem filter_index_tableEntries {voices : List (Nat × Voice)} {placement : Placement}
    (h : placement ∈ placements voices) :
    ((tableEntries placement.voice.kind (placements voices)).filter fun entry ↦
      entry.index = placement.index) = [placement.entry] := by
  have hnodup : ((tableEntries placement.voice.kind (placements voices)).map
      Entry.index).Nodup := by
    have hindices := map_index_numbered placement.voice.kind (fun _ ↦ 0) voices
    rw [tableEntries, List.map_map]
    change ((placedIn _ (numbered _ _)).map Placement.index).Nodup
    rw [hindices]
    exact List.nodup_range'
  exact filter_eq_singleton hnodup (List.mem_map_of_mem (mem_placedIn h))

/-- The index of a placed voice lies in the range of its table. -/
theorem index_bounds {kind : TableKind} {voices : List (Nat × Voice)} {placement : Placement}
    (h : placement ∈ placedIn kind (placements voices)) :
    kind.base ≤ placement.index ∧ placement.index < kind.base + countOf kind voices := by
  have hmem := List.mem_map_of_mem (f := Placement.index) h
  rw [placements, map_index_numbered, List.mem_range'_1] at hmem
  omega

/-- In tables that are not over their capacity, an index below 128 belongs to the table for full
volume and any other to the table for low volume. -/
theorem index_lt_iff {kind : TableKind} {voices : List (Nat × Voice)} {placement : Placement}
    (hcapacity : ∀ kind : TableKind, countOf kind voices ≤ kind.capacity)
    (h : placement ∈ placedIn kind (placements voices)) :
    placement.index < TableKind.low.base ↔ kind = .high := by
  obtain ⟨hlower, hupper⟩ := index_bounds h
  have hcount := hcapacity kind
  cases kind with
  | high =>
    simp only [TableKind.base, TableKind.capacity] at *
    simp only [iff_true]
    omega
  | low =>
    simp only [TableKind.base, reduceCtorEq, iff_false] at *
    omega

/-- In tables that are not over their capacity, the index of a placed voice is the index of its
own entry and of no other entry of either table. -/
theorem filter_index_tables {voices : List (Nat × Voice)} {placement : Placement}
    (hcapacity : ∀ kind : TableKind, countOf kind voices ≤ kind.capacity)
    (h : placement ∈ placements voices) (kind : TableKind) :
    ((tableEntries kind (placements voices)).filter fun entry ↦
      entry.index = placement.index) =
        if kind = placement.voice.kind then [placement.entry] else [] := by
  split
  case isTrue hkind =>
    rw [hkind]
    exact filter_index_tableEntries h
  case isFalse hkind =>
    refine List.filter_eq_nil_iff.mpr fun entry hentry hindex ↦ hkind ?_
    obtain ⟨other, hother, rfl⟩ := List.mem_map.mp hentry
    have hequal : other.index = placement.index := of_decide_eq_true hindex
    have hside : kind = .high ↔ placement.voice.kind = .high := by
      rw [← index_lt_iff hcapacity hother, hequal, index_lt_iff hcapacity (mem_placedIn h)]
    cases kind <;> cases hplacement : placement.voice.kind <;> simp_all

end StepSequencer
