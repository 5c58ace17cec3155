import StepSequencer.Proofs.Assembly.BlockStore
import StepSequencer.Proofs.Calls

/-!
# What a store holds after any insertions

A run stores texts one after the other, starting with an empty store; some of them may be refused.
`Holds` is what the store and the log of the run have to do with each other: the trimmed texts of
the blocks are those of the texts that were not refused, each at its first occurrence, every block
is the block of the first text with this trimmed text, and the positions that were returned lead
to blocks with the trimmed text of the call.

`Holds.insert_ok` and `Holds.insert_error` are the steps of this invariant. `KeepsFirst` collects
what follows for the store: the map finds exactly the blocks that are there, no identity and no
trimmed text occurs twice, and a position is never given to another block.
-/

set_option autoImplicit false
set_option relaxedAutoImplicit false

namespace StepSequencer

namespace BlockStore

/-! ### One insertion -/

/-- No two blocks have the same identity, since the map gives one position for it. -/
theorem nodup_identities (store : BlockStore) : (store.blocks.map Block.identity).Nodup := by
  rw [List.Nodup, List.pairwise_iff_getElem]
  intro first second hfirst hsecond hlt heq
  rw [List.length_map] at hfirst hsecond
  rw [List.getElem_map, List.getElem_map] at heq
  have hone := (store.indexes _ first).mpr ⟨_, List.getElem?_eq_getElem hfirst, rfl⟩
  have htwo := (store.indexes _ second).mpr ⟨_, List.getElem?_eq_getElem hsecond, heq.symm⟩
  rw [hone] at htwo
  have hsame := Option.some.inj htwo
  omega

/-- Blocks with the same identity are the same. -/
theorem eq_of_identity_eq {store : BlockStore} {first second : Block}
    (hfirst : first ∈ store.blocks) (hsecond : second ∈ store.blocks)
    (h : first.identity = second.identity) : first = second := by
  obtain ⟨position, hposition⟩ := List.getElem?_of_mem hfirst
  obtain ⟨other, hother⟩ := List.getElem?_of_mem hsecond
  have hone := (store.indexes _ position).mpr ⟨first, hposition, h⟩
  have htwo := (store.indexes _ other).mpr ⟨second, hother, rfl⟩
  have hsame : position = other := Option.some.inj (hone.symm.trans htwo)
  rw [hsame, hother] at hposition
  exact (Option.some.inj hposition).symm

/-- Storing a text moves no block. -/
theorem prefix_insert (store : BlockStore) (text : String) :
    store.blocks <+: (store.insert text).2.blocks := by
  rcases store.insert_cases text with ⟨_, _, hinsert, -⟩ | ⟨_, -, hinsert, -⟩ |
    ⟨_, hinsert, hblocks, -⟩
  · simp [hinsert]
  · simp [hinsert]
  · simp [hinsert, hblocks]

/-- A text that is refused changes nothing. -/
theorem eq_of_insert_error {store next : BlockStore} {text : String} {fault : AssemblyError}
    (h : store.insert text = (.error fault, next)) : next = store := by
  rcases store.insert_cases text with ⟨_, _, hinsert, -⟩ | ⟨_, -, hinsert, -⟩ |
    ⟨_, hinsert, -⟩
  · rw [hinsert] at h
    cases h
  · rw [hinsert] at h
    cases h
    rfl
  · rw [hinsert] at h
    cases h

/-- The position that is returned leads to a block with the trimmed text. -/
theorem get?_of_insert {store next : BlockStore} {text : String} {position : Nat}
    (h : store.insert text = (.ok position, next)) :
    (next.get? position).map Block.canonical = some (Text.trim text) := by
  rcases store.insert_cases text with ⟨_, block, hinsert, hblock, hcanonical⟩ |
    ⟨_, -, hinsert, -⟩ | ⟨_, hinsert, hblocks, -⟩
  · rw [hinsert] at h
    cases h
    rw [get?, hblock, Option.map_some, hcanonical]
  · rw [hinsert] at h
    cases h
  · rw [hinsert] at h
    cases h
    rw [get?, hblocks, size, List.getElem?_concat_length]
    rfl

/-- A block stays at its position when blocks follow. -/
theorem get?_mono {store next : BlockStore} (h : store.blocks <+: next.blocks)
    {position : Nat} {block : Block} (hblock : store.get? position = some block) :
    next.get? position = some block := by
  obtain ⟨hposition, hget⟩ := List.getElem?_eq_some_iff.mp hblock
  rw [get?, List.prefix_iff_getElem?.mp h position hposition, hget]

/-- No call moves a block. -/
theorem prefix_afterCalls (store : BlockStore) (texts : List String) :
    store.blocks <+: (afterCalls insert store texts).blocks :=
  afterCalls_invariant (motive := fun (next : BlockStore) _ ↦ store.blocks <+: next.blocks)
    (fun hbefore text ↦ hbefore.trans (prefix_insert _ text)) List.prefix_rfl texts

/-! ### Runs of insertions -/

/-- What a store and the log of the calls that filled it have to do with each other. -/
structure Holds (store : BlockStore) (log : List (String × Except AssemblyError Nat)) : Prop where
  canonical : store.blocks.map Block.canonical = ((accepted log).map Text.trim).eraseDups
  first : ∀ block ∈ store.blocks,
    (accepted log).find? (fun text ↦ Text.trim text = block.canonical) = some block.text
  block : ∀ block ∈ store.blocks,
    block.canonical = Text.trim block.text ∧ block.identity = blockIdentity block.canonical
  returned : ∀ text position, (text, .ok position) ∈ log →
    (store.get? position).map Block.canonical = some (Text.trim text)

theorem holds_nil : Holds {} [] where
  canonical := rfl
  first := by simp
  block := by simp
  returned := by simp

/-- The texts in a store are those that were accepted. -/
theorem Holds.mem_canonical {store : BlockStore}
    {log : List (String × Except AssemblyError Nat)} (h : Holds store log) {canonical : String} :
    canonical ∈ store.blocks.map Block.canonical ↔ canonical ∈ (accepted log).map Text.trim := by
  rw [h.canonical, List.mem_eraseDups]

/-- Earlier positions still lead where they did, and the last one to the text just stored. -/
theorem Holds.returned_insert {store next : BlockStore}
    {log : List (String × Except AssemblyError Nat)} (h : Holds store log) {text : String}
    {position : Nat} (hinsert : store.insert text = (.ok position, next)) {other : String}
    {place : Nat} (hmem : (other, .ok place) ∈ log ++ [(text, Except.ok position)]) :
    (next.get? place).map Block.canonical = some (Text.trim other) := by
  have hgrows := store.prefix_insert text
  rw [hinsert] at hgrows
  rcases List.mem_append.mp hmem with hbefore | hlast
  · obtain ⟨block, hblock, hcanonical⟩ := Option.map_eq_some_iff.mp (h.returned _ _ hbefore)
    rw [get?_mono hgrows hblock, Option.map_some, hcanonical]
  · cases List.mem_singleton.mp hlast
    exact get?_of_insert hinsert

/-- A text whose identity is new has not been stored before. -/
theorem Holds.not_mem_of_new {store : BlockStore}
    {log : List (String × Except AssemblyError Nat)} (h : Holds store log) {text : String}
    (hnew : ∀ block ∈ store.blocks, block.identity ≠ blockIdentity (Text.trim text)) :
    Text.trim text ∉ (accepted log).map Text.trim := by
  intro hmem
  obtain ⟨block, hblock, hcanonical⟩ := List.mem_map.mp (h.mem_canonical.mpr hmem)
  refine hnew block hblock ?_
  rw [(h.block block hblock).2, hcanonical]

/-- One more text that is stored: its trimmed text is there, or its block follows the others. -/
theorem Holds.insert_ok {store next : BlockStore}
    {log : List (String × Except AssemblyError Nat)} (h : Holds store log) {text : String}
    {position : Nat} (hinsert : store.insert text = (.ok position, next)) :
    Holds next (log ++ [(text, .ok position)]) := by
  have hreturned : ∀ other place, (other, .ok place) ∈ log ++ [(text, Except.ok position)] →
      (next.get? place).map Block.canonical = some (Text.trim other) :=
    fun _ _ ↦ h.returned_insert hinsert
  rcases store.insert_cases text with ⟨_, block, hcase, hblock, hcanonical⟩ |
    ⟨_, -, hcase, -⟩ | ⟨_, hcase, hblocks, hnew⟩
  · rw [hcase] at hinsert
    cases hinsert
    have hmem : Text.trim text ∈ (accepted log).map Text.trim :=
      h.mem_canonical.mp (hcanonical ▸ List.mem_map_of_mem (List.mem_of_getElem? hblock))
    refine ⟨?_, ?_, h.block, hreturned⟩
    · rw [accepted_append_ok, List.map_append, List.map_singleton, eraseDups_append_of_mem hmem,
        h.canonical]
    · intro other hother
      rw [accepted_append_ok, List.find?_append, h.first other hother, Option.some_or]
  · rw [hcase] at hinsert
    cases hinsert
  · rw [hcase] at hinsert
    cases hinsert
    have hnotMem := h.not_mem_of_new hnew
    refine ⟨?_, ?_, ?_, hreturned⟩
    · rw [accepted_append_ok, List.map_append, List.map_singleton,
        eraseDups_append_of_not_mem hnotMem, hblocks, List.map_append, h.canonical]
      rfl
    · intro block hblock
      rw [hblocks] at hblock
      rw [accepted_append_ok, List.find?_append]
      rcases List.mem_append.mp hblock with hbefore | hlast
      · rw [h.first block hbefore, Option.some_or]
      · rw [List.mem_singleton.mp hlast]
        have hnone : (accepted log).find? (fun other ↦
            Text.trim other = (Block.ofText text).canonical) = none := by
          refine List.find?_eq_none.mpr fun other hother heq ↦ hnotMem ?_
          have hsame : Text.trim other = Text.trim text := of_decide_eq_true heq
          exact hsame ▸ List.mem_map_of_mem hother
        rw [hnone, Option.none_or]
        simp [Block.ofText]
    · intro block hblock
      rw [hblocks] at hblock
      rcases List.mem_append.mp hblock with hbefore | hlast
      · exact h.block block hbefore
      · rw [List.mem_singleton.mp hlast]
        exact ⟨rfl, rfl⟩

/-- A text that is refused does not count. -/
theorem Holds.insert_error {store next : BlockStore}
    {log : List (String × Except AssemblyError Nat)} (h : Holds store log) {text : String}
    {fault : AssemblyError} (hinsert : store.insert text = (.error fault, next)) :
    Holds next (log ++ [(text, .error fault)]) := by
  obtain rfl := eq_of_insert_error hinsert
  refine ⟨?_, ?_, h.block, ?_⟩
  · rw [accepted_append_error, h.canonical]
  · rw [accepted_append_error]
    exact h.first
  · intro other position hmem
    rcases List.mem_append.mp hmem with hbefore | hlast
    · exact h.returned other position hbefore
    · cases List.mem_singleton.mp hlast

/-- After every run the store holds the texts that were not refused. -/
theorem holds_afterCalls (texts : List String) :
    Holds (afterCalls insert {} texts) (callLog insert {} texts) := by
  refine afterCalls_invariant (motive := Holds) ?_ holds_nil texts
  intro store log hbefore text
  rcases hinsert : store.insert text with ⟨fault | position, next⟩
  · exact hbefore.insert_error hinsert
  · exact hbefore.insert_ok hinsert

/-! ### Positions and refusals -/

/-- No text is stored twice. -/
theorem Holds.nodup_canonical {store : BlockStore}
    {log : List (String × Except AssemblyError Nat)} (h : Holds store log) :
    (store.blocks.map Block.canonical).Nodup := by
  rw [h.canonical]
  exact nodup_eraseDups _

/-- Calls return the same position exactly for texts that are the same when trimmed. -/
theorem Holds.position_eq_iff {store : BlockStore}
    {log : List (String × Except AssemblyError Nat)} (h : Holds store log)
    {first second : String} {position other : Nat} (hfirst : (first, .ok position) ∈ log)
    (hsecond : (second, .ok other) ∈ log) :
    position = other ↔ Text.trim first = Text.trim second := by
  have hone := h.returned first position hfirst
  have htwo := h.returned second other hsecond
  constructor
  · rintro rfl
    exact Option.some.inj (hone.symm.trans htwo)
  · intro htrim
    rw [get?, ← List.getElem?_map] at hone htwo
    have hlength := (List.getElem?_eq_some_iff.mp hone).1
    refine (List.getElem?_inj hlength h.nodup_canonical).mp ?_
    rw [hone, htwo, htrim]

/-- A text is refused exactly when another text has its identity. -/
theorem Holds.insert_eq_error_iff {store : BlockStore}
    {log : List (String × Except AssemblyError Nat)} (h : Holds store log) (text : String)
    (fault : AssemblyError) :
    (store.insert text).1 = .error fault ↔
      fault = .identityCollision (blockIdentity (Text.trim text)) ∧
        ∃ block ∈ store.blocks, block.identity = blockIdentity (Text.trim text) ∧
          block.canonical ≠ Text.trim text := by
  rcases store.insert_cases text with ⟨_, block, hcase, hblock, hcanonical⟩ |
    ⟨block, hblock, hcase, hidentity, hcanonical⟩ | ⟨_, hcase, hblocks, hnew⟩
  · rw [hcase]
    refine iff_of_false (by simp) ?_
    rintro ⟨-, other, hother, hidentity, hne⟩
    have hmem := List.mem_of_getElem? hblock
    have hsame : block = other := eq_of_identity_eq hmem hother (by
      rw [(h.block block hmem).2, hcanonical, hidentity])
    exact hne (hsame ▸ hcanonical)
  · rw [hcase]
    constructor
    · intro heq
      exact ⟨(Except.error.inj heq).symm, block, hblock, hidentity, hcanonical⟩
    · rintro ⟨rfl, -⟩
      rfl
  · rw [hcase]
    refine iff_of_false (by simp) ?_
    rintro ⟨-, other, hother, hidentity, -⟩
    exact hnew other hother hidentity

/-- All that is known about a store that was filled by calls: besides what it holds, the map finds
exactly the blocks, nothing occurs twice, positions tell texts apart and are never given to
another block, and a text is refused only for the identity of another one and without a trace. -/
structure KeepsFirst (store : BlockStore) (log : List (String × Except AssemblyError Nat)) :
    Prop extends Holds store log where
  positions : ∀ identity position, store.positions.lookup identity = some position ↔
    ∃ block, store.get? position = some block ∧ block.identity = identity
  identities : (store.blocks.map Block.identity).Nodup
  canonicals : (store.blocks.map Block.canonical).Nodup
  position_eq_iff : ∀ first second position other, (first, .ok position) ∈ log →
    (second, .ok other) ∈ log → (position = other ↔ Text.trim first = Text.trim second)
  stays : ∀ position block texts, store.get? position = some block →
    (afterCalls insert store texts).get? position = some block
  refused : ∀ text fault, (store.insert text).1 = .error fault ↔
    fault = .identityCollision (blockIdentity (Text.trim text)) ∧
      ∃ block ∈ store.blocks, block.identity = blockIdentity (Text.trim text) ∧
        block.canonical ≠ Text.trim text
  unchanged : ∀ text fault, (store.insert text).1 = .error fault →
    (store.insert text).2 = store

/-- Whatever texts are stored one after the other, the store keeps the first of those that are the
same when trimmed, at a position that stays its own. -/
theorem keepsFirst_afterCalls (texts : List String) :
    KeepsFirst (afterCalls insert {} texts) (callLog insert {} texts) := by
  have hholds := holds_afterCalls texts
  constructor
  case toHolds => exact hholds
  case positions => exact (afterCalls insert {} texts).indexes
  case identities => exact nodup_identities _
  case canonicals => exact hholds.nodup_canonical
  case position_eq_iff =>
    intro first second position other hfirst hsecond
    exact hholds.position_eq_iff hfirst hsecond
  case stays =>
    intro position block more hblock
    exact get?_mono (prefix_afterCalls _ more) hblock
  case refused => exact hholds.insert_eq_error_iff
  case unchanged =>
    intro text fault hinsert
    exact eq_of_insert_error (Prod.ext hinsert rfl)

end BlockStore

end StepSequencer
