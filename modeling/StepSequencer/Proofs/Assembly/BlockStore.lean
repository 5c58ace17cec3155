import StepSequencer.Proofs.Assembly.Readback

/-!
# The store keeps first occurrences

`BlockStore.insert_cases` says all that storing a text can do: find a block with the same
trimmed text, refuse the text because a block with another trimmed text has its identity, or put
its block at the end. Everything else follows from it.

A store that was filled with groups is the list of their distinct blocks in the order of first
occurrence, `StoresGroups`. `StoresGroups.insert` is one step of this invariant: storing one more
group fails only when two different groups share their identity (`Collide`), and otherwise gives
the place of the group among the distinct groups.
-/

set_option autoImplicit false
set_option relaxedAutoImplicit false

namespace StepSequencer

/-! ### First occurrences in a list -/

section FirstOccurrences

variable {α : Type} [BEq α] [LawfulBEq α]

theorem eraseDups_append_of_mem {list : List α} {a : α} (h : a ∈ list) :
    (list ++ [a]).eraseDups = list.eraseDups := by
  simp [List.eraseDups_append, List.removeAll, h]

theorem eraseDups_append_of_not_mem {list : List α} {a : α} (h : a ∉ list) :
    (list ++ [a]).eraseDups = list.eraseDups ++ [a] := by
  simp [List.eraseDups_append, List.removeAll, h, List.eraseDups_cons]

/-- Without repetitions no element is there twice. The elements behind the first are filtered, so
the induction is on the length. -/
theorem nodup_eraseDups (list : List α) : list.eraseDups.Nodup := by
  generalize hlength : list.length = length
  induction length using Nat.strongRecOn generalizing list with
  | ind length ih =>
    cases list with
    | nil => simp
    | cons a rest =>
      have hshorter : (rest.filter fun b ↦ !b == a).length < length :=
        hlength ▸ Nat.lt_succ_of_le (List.length_filter_le _ rest)
      rw [List.eraseDups_cons, List.nodup_cons]
      exact ⟨by simp, ih _ hshorter _ rfl⟩

/-- Elements that come later do not move the first occurrence of an earlier one. -/
theorem idxOf_eraseDups_append {list : List α} {a : α} (h : a ∈ list) (others : List α) :
    (list ++ others).eraseDups.idxOf a = list.eraseDups.idxOf a := by
  rw [List.eraseDups_append, List.idxOf_append, if_pos (List.mem_eraseDups.mpr h)]

end FirstOccurrences

/-! ### One insertion -/

namespace BlockStore

/-- An identity that is not found belongs to no block. -/
theorem identity_ne_of_lookup_eq_none {store : BlockStore} {identity : String}
    (h : store.positions.lookup identity = none) :
    ∀ block ∈ store.blocks, block.identity ≠ identity := by
  intro block hblock hidentity
  obtain ⟨position, hposition⟩ := List.getElem?_of_mem hblock
  have hfound := (store.indexes identity position).mpr ⟨block, hposition, hidentity⟩
  rw [h] at hfound
  cases hfound

/-- All that storing a text can do: the block is there already, another block has its identity,
or it is new and goes to the end. -/
theorem insert_cases (store : BlockStore) (text : String) :
    (∃ position block, store.insert text = (.ok position, store) ∧
        store.blocks[position]? = some block ∧ block.canonical = Text.trim text) ∨
      (∃ block ∈ store.blocks,
        store.insert text =
          (.error (.identityCollision (blockIdentity (Text.trim text))), store) ∧
          block.identity = blockIdentity (Text.trim text) ∧
            block.canonical ≠ Text.trim text) ∨
      ∃ next, store.insert text = (.ok store.size, next) ∧
        next.blocks = store.blocks ++ [Block.ofText text] ∧
          ∀ block ∈ store.blocks, block.identity ≠ blockIdentity (Text.trim text) := by
  unfold insert put
  split
  · rename_i position hlookup
    obtain ⟨block, hblock, hidentity⟩ := (store.indexes _ position).mp hlookup
    have hget : store.get? position = some block := hblock
    by_cases hcanonical : block.canonical = Text.trim text
    · refine Or.inl ⟨position, block, ?_, hblock, hcanonical⟩
      rw [hget, Option.map_some, hcanonical]
      exact if_pos rfl
    · refine Or.inr (Or.inl ⟨block, List.mem_of_getElem? hblock, ?_, hidentity, hcanonical⟩)
      rw [hget, Option.map_some]
      exact if_neg fun heq ↦ hcanonical (Option.some.inj heq)
  · rename_i hlookup
    exact Or.inr (Or.inr ⟨_, rfl, rfl, identity_ne_of_lookup_eq_none hlookup⟩)

end BlockStore

/-! ### Stores of groups -/

/-- The block of a group. -/
def groupBlock (group : List Slot) : Block :=
  Block.ofText (groupText group)

/-- Two groups with different texts that nevertheless have the same identity. -/
def Collide (first second : List Slot) : Prop :=
  groupText first ≠ groupText second ∧
    blockIdentity (Text.trim (groupText first)) = blockIdentity (Text.trim (groupText second))

/-- The store holds the distinct ones of some groups, in the order of their first occurrence. -/
def StoresGroups (store : BlockStore) (groups : List (List Slot)) : Prop :=
  store.blocks = groups.eraseDups.map groupBlock

/-- Storing one more group gives its place among the distinct groups, unless it collides with a
group that is there. -/
theorem StoresGroups.insert {store : BlockStore} {groups : List (List Slot)} {group : List Slot}
    (hstore : StoresGroups store groups) (hgroups : ∀ other ∈ groups, IsGroup other)
    (hgroup : IsGroup group) :
    (∃ next, store.insert (groupText group) =
        (.ok ((groups ++ [group]).eraseDups.idxOf group), next) ∧
          StoresGroups next (groups ++ [group])) ∨
      (∃ identity, store.insert (groupText group) =
        (.error (.identityCollision identity), store)) ∧
        ∃ other ∈ groups, Collide other group := by
  rcases store.insert_cases (groupText group) with
    ⟨position, block, hinsert, hblock, hcanonical⟩ |
      ⟨block, hblock, hinsert, hidentity, hcanonical⟩ | ⟨next, hinsert, hblocks, hnew⟩
  · rw [hstore, List.getElem?_map, Option.map_eq_some_iff] at hblock
    obtain ⟨other, hother, rfl⟩ := hblock
    have hmem : other ∈ groups := List.mem_eraseDups.mp (List.mem_of_getElem? hother)
    obtain rfl : other = group := (hgroups other hmem).eq_of_trim_eq hgroup hcanonical
    obtain ⟨hposition, hget⟩ := List.getElem?_eq_some_iff.mp hother
    have hidx : groups.eraseDups.idxOf other = position := by
      rw [← hget]
      exact (nodup_eraseDups groups).idxOf_getElem position hposition
    rw [eraseDups_append_of_mem hmem, hidx]
    refine Or.inl ⟨store, hinsert, ?_⟩
    rw [StoresGroups, eraseDups_append_of_mem hmem, hstore]
  · rw [hstore] at hblock
    obtain ⟨other, hother, rfl⟩ := List.mem_map.mp hblock
    refine Or.inr ⟨⟨_, hinsert⟩, other, List.mem_eraseDups.mp hother, ?_, hidentity⟩
    exact fun heq ↦ hcanonical (congrArg Text.trim heq)
  · have hnotMem : group ∉ groups := by
      intro hmem
      refine hnew (groupBlock group) ?_ rfl
      rw [hstore]
      exact List.mem_map_of_mem (List.mem_eraseDups.mpr hmem)
    have hsize : store.size = groups.eraseDups.length := by
      rw [BlockStore.size, hstore, List.length_map]
    have hidx : (groups.eraseDups ++ [group]).idxOf group = store.size := by
      rw [List.idxOf_append, if_neg (fun hmem ↦ hnotMem (List.mem_eraseDups.mp hmem)),
        List.idxOf_cons_self, hsize, Nat.zero_add]
    rw [eraseDups_append_of_not_mem hnotMem, hidx]
    refine Or.inl ⟨next, hinsert, ?_⟩
    rw [StoresGroups, hblocks, eraseDups_append_of_not_mem hnotMem, List.map_append, hstore]
    rfl

end StepSequencer
