import StepSequencer.Proofs.Assembly.Insertions
import StepSequencer.Proofs.Assembly.Slots

/-!
# Compiling a channel into any store

Nothing is assumed here about what a store holds: texts of any kind may be in it already. Compiling
a channel only adds blocks at the end, also when it fails (`prefix_compileChannel`). When it
succeeds, the positions in the voice lead to the groups of the channel, in order (`Names`), and
they still do so in every store that begins with the same blocks (`Names.mono`).

`channelTexts` says what the texts of these groups are: the slots of the channel, eight at a time,
two values on a line and their accents below.
-/

set_option autoImplicit false
set_option relaxedAutoImplicit false

namespace StepSequencer

open Json (decimal)

/-- The blocks at some positions have the trimmed texts of some groups. -/
def BlockStore.Names (store : BlockStore) (positions : List Nat) (groups : List (List Slot)) :
    Prop :=
  positions.map (fun position ↦ (store.get? position).map Block.canonical) =
    groups.map fun group ↦ some (Text.trim (groupText group))

namespace BlockStore

theorem Names.length_eq {store : BlockStore} {positions : List Nat} {groups : List (List Slot)}
    (h : store.Names positions groups) : positions.length = groups.length := by
  simpa using congrArg List.length h

/-- Positions that lead to blocks are in range. -/
theorem Names.lt_size {store : BlockStore} {positions : List Nat} {groups : List (List Slot)}
    (h : store.Names positions groups) {position : Nat} (hposition : position ∈ positions) :
    position < store.size := by
  have hmem : (store.get? position).map Block.canonical ∈
      groups.map fun group ↦ some (Text.trim (groupText group)) :=
    h ▸ List.mem_map_of_mem hposition
  obtain ⟨group, -, hgroup⟩ := List.mem_map.mp hmem
  obtain ⟨block, hblock, -⟩ := Option.map_eq_some_iff.mp hgroup.symm
  exact (List.getElem?_eq_some_iff.mp hblock).1

/-- More blocks behind do not matter. -/
theorem Names.mono {store next : BlockStore} {positions : List Nat} {groups : List (List Slot)}
    (h : store.Names positions groups) (hgrows : store.blocks <+: next.blocks) :
    next.Names positions groups := by
  refine Eq.trans (List.map_congr_left fun position hposition ↦ ?_) h
  have hlt := h.lt_size hposition
  have hblock : store.get? position = some store.blocks[position] := List.getElem?_eq_getElem hlt
  rw [get?_mono hgrows hblock, hblock]

end BlockStore

variable {encoder : Encoder} {tuning : UInt8}

/-- Groups are stored behind the blocks that are there, whatever happens. -/
theorem prefix_storeGroups (encoder : Encoder) (tuning : UInt8)
    (pieces : List (List (Option Step))) (store : BlockStore) :
    store.blocks <+: (storeGroups encoder tuning pieces store).2.blocks := by
  induction pieces generalizing store with
  | nil => exact List.prefix_rfl
  | cons piece rest ih =>
    unfold storeGroups
    split
    · exact List.prefix_rfl
    · rename_i slots _
      have hgrows := store.prefix_insert (groupText slots)
      split
      · rename_i hinsert
        rwa [hinsert] at hgrows
      · rename_i position next hinsert
        rw [hinsert] at hgrows
        have hnext := hgrows.trans (ih next)
        split
        · rename_i heq
          rwa [heq] at hnext
        · rename_i heq
          rwa [heq] at hnext

/-- Groups that are all stored are found at the positions that are returned. -/
theorem names_of_storeGroups {pieces : List (List (Option Step))} {store next : BlockStore}
    {positions : List Nat}
    (h : storeGroups encoder tuning pieces store = (.ok positions, next)) :
    next.Names positions (pieces.map (List.map (sounding encoder tuning))) := by
  induction pieces generalizing store positions with
  | nil =>
    cases h
    rfl
  | cons piece rest ih =>
    rw [storeGroups, resolveGroup_eq] at h
    split at h
    · cases h
    · rename_i slots hresolve
      split at hresolve
      · cases hresolve
      cases hresolve
      split at h
      · cases h
      · rename_i position middle hinsert
        split at h
        · cases h
        · rename_i others final hrest
          cases h
          have hgrows : middle.blocks <+: next.blocks := by
            have hothers := prefix_storeGroups encoder tuning rest middle
            rwa [hrest] at hothers
          obtain ⟨block, hblock, hcanonical⟩ :=
            Option.map_eq_some_iff.mp (BlockStore.get?_of_insert hinsert)
          rw [BlockStore.Names, List.map_cons, List.map_cons, List.map_cons,
            BlockStore.get?_mono hgrows hblock, Option.map_some, hcanonical]
          exact congrArg _ (ih hrest)

/-- Compiling a channel moves no block, whatever happens. -/
theorem prefix_compileChannel (encoder : Encoder) (tuning steps : UInt8) (channel : Channel)
    (store : BlockStore) :
    store.blocks <+: (compileChannel encoder tuning steps channel store).2.blocks := by
  unfold compileChannel
  split
  · exact List.prefix_rfl
  · split
    · exact List.prefix_rfl
    · rename_i increment _ _
      have hgroups := prefix_storeGroups encoder tuning
        (cut slotsPerGroup (spread increment channel.steps)) store
      split
      · rename_i heq
        rwa [heq] at hgroups
      · rename_i heq
        rwa [heq] at hgroups

/-- A voice keeps the attenuation of its channel and names the groups of the channel. -/
theorem names_of_compileChannel {steps : UInt8} {channel : Channel} {store next : BlockStore}
    {voice : Voice}
    (h : compileChannel encoder tuning steps channel store = (.ok voice, next)) :
    voice.attenuate = channel.attenuate ∧
      next.Names voice.blocks (channelGroups encoder tuning steps channel) := by
  unfold compileChannel at h
  split at h
  · cases h
  · rename_i increment hincrement
    split at h
    · cases h
    · rename_i hlength
      split at h
      · cases h
      · rename_i positions final hgroups
        cases h
        rw [← map_sounding_cut_spread encoder tuning hincrement (Decidable.not_not.mp hlength)]
        exact ⟨rfl, names_of_storeGroups hgroups⟩

/-! ### The texts of a channel -/

/-- The text of eight values and eight digits: four lines of two values, a blank line, a line of
digits, and a blank line. -/
def eightText (value : Nat → Nat) (digit : Nat → Char) : String :=
  "    byte " ++ decimal (value 0) ++ ", " ++ decimal (value 1) ++ "\n" ++
  "    byte " ++ decimal (value 2) ++ ", " ++ decimal (value 3) ++ "\n" ++
  "    byte " ++ decimal (value 4) ++ ", " ++ decimal (value 5) ++ "\n" ++
  "    byte " ++ decimal (value 6) ++ ", " ++ decimal (value 7) ++ "\n" ++
  "\n" ++
  "    byte " ++ "%" ++ String.ofList ((List.range 8).map digit) ++ "\n\n"

/-- The text of a group is the text of its eight slots. -/
theorem groupText_map_range (slot : Nat → Slot) :
    groupText ((List.range slotsPerGroup).map slot) =
      eightText (fun place ↦ (slot place).byte.toNat) fun place ↦ (slot place).digit := by
  have hdigits : (List.range 8).map (fun place ↦ (slot place).digit) =
      ((List.range slotsPerGroup).map slot).map Slot.digit := by
    rw [List.map_map]
    rfl
  have hslots : (List.range slotsPerGroup).map slot =
      [slot 0, slot 1, slot 2, slot 3, slot 4, slot 5, slot 6, slot 7] := rfl
  unfold groupText eightText
  rw [hdigits, hslots]
  dsimp only [pairLines, byteLine]
  simp only [String.append_assoc, String.empty_append, -String.reduceAppend]

/-- The text of the slots of a channel from the first slot of a group on. -/
def slotsText (encoder : Encoder) (tuning : UInt8) (increment : Nat) (steps : List Step)
    (group : Nat) : String :=
  eightText
    (fun place ↦ (slotAt encoder tuning increment steps (8 * group + place)).byte.toNat)
    fun place ↦ (slotAt encoder tuning increment steps (8 * group + place)).digit

/-- The texts of the groups of a channel. -/
def channelTexts (encoder : Encoder) (tuning steps : UInt8) (channel : Channel) : List String :=
  (List.range 4).map (slotsText encoder tuning (32 / steps.toNat) channel.steps)

/-- The groups of a channel have the texts of its slots, eight at a time. -/
theorem map_groupText_channelGroups (encoder : Encoder) (tuning steps : UInt8)
    (channel : Channel) :
    (channelGroups encoder tuning steps channel).map groupText =
      channelTexts encoder tuning steps channel := by
  rw [channelGroups, List.map_map]
  exact List.map_congr_left fun group _ ↦ groupText_map_range _

/-- What names the groups of a channel leads to the texts of its slots. -/
theorem BlockStore.Names.map_canonical {store : BlockStore} {positions : List Nat}
    {steps : UInt8} {channel : Channel}
    (h : store.Names positions (channelGroups encoder tuning steps channel)) :
    positions.map (fun position ↦ (store.get? position).map Block.canonical) =
      (channelTexts encoder tuning steps channel).map fun text ↦ some (Text.trim text) := by
  rw [← map_groupText_channelGroups, List.map_map]
  exact h

end StepSequencer
