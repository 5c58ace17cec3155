import StepSequencer.Assembly.Error
import StepSequencer.Digest.Blake3
import StepSequencer.Text.Blank

/-!
# Blocks stored once

A block is known by the hash of its text without blanks at the ends. The store keeps each block
where it first occurred; its position there gives its label. A map from identities to positions
goes with the blocks, and a store carries the proof that it finds exactly the blocks that are
there. Storing a text that is there already gives the position of the first one. Should two
different texts have the same hash, the second is refused and the store stays as it was.
-/

set_option autoImplicit false
set_option relaxedAutoImplicit false

namespace StepSequencer

/-- The identity of a trimmed text. -/
def blockIdentity (canonical : String) : String :=
  Digest.Blake3.hex canonical

/-- The label of the block at a position. -/
def blockLabel (position : Nat) : String :=
  "Pattern" ++ Json.decimal (position + 1 : Nat)

/-- A stored block: its identity, its text without blanks at the ends, and its text. -/
structure Block where
  identity : String
  canonical : String
  text : String
deriving DecidableEq, Repr

/-- The block of a text. -/
def Block.ofText (text : String) : Block :=
  ⟨blockIdentity (Text.trim text), Text.trim text, text⟩

/-- A map from identities finds exactly the positions of blocks. -/
def Indexes (positions : List (String × Nat)) (blocks : List Block) : Prop :=
  ∀ identity position, positions.lookup identity = some position ↔
    ∃ block, blocks[position]? = some block ∧ block.identity = identity

theorem Indexes.nil : Indexes [] [] := by
  simp [Indexes]

/-- Blocks in the order of their first occurrence, and the position of each by its identity. -/
structure BlockStore where
  blocks : List Block := []
  positions : List (String × Nat) := []
  indexes : Indexes positions blocks := by exact Indexes.nil
deriving DecidableEq, Repr

/-- One more block with an identity that the map does not know, and so no block before it has. -/
theorem Indexes.append {positions : List (String × Nat)} {blocks : List Block}
    (h : Indexes positions blocks) {block : Block}
    (hnew : positions.lookup block.identity = none) :
    Indexes ((block.identity, blocks.length) :: positions) (blocks ++ [block]) := by
  intro identity position
  rw [List.lookup_cons]
  by_cases hidentity : identity = block.identity
  · subst hidentity
    simp only [beq_self_eq_true, Option.some.injEq]
    constructor
    · rintro rfl
      exact ⟨block, by simp, rfl⟩
    · rintro ⟨other, hother, hsame⟩
      by_cases hposition : position < blocks.length
      · rw [List.getElem?_append_left hposition] at hother
        have hfound := (h block.identity position).mpr ⟨other, hother, hsame⟩
        rw [hnew] at hfound
        cases hfound
      · have hlength := (List.getElem?_eq_some_iff.mp hother).1
        rw [List.length_append, List.length_singleton] at hlength
        omega
  · rw [beq_eq_false_iff_ne.mpr hidentity, h]
    refine exists_congr fun other ↦ and_congr_left fun hsame ↦ ?_
    by_cases hposition : position < blocks.length
    · rw [List.getElem?_append_left hposition]
    · rw [List.getElem?_append_right (Nat.le_of_not_lt hposition),
        List.getElem?_eq_none (Nat.le_of_not_lt hposition)]
      refine iff_of_false (by simp) fun hother ↦ hidentity ?_
      rw [← hsame, List.mem_singleton.mp (List.mem_of_getElem? hother)]

namespace BlockStore

/-- The number of blocks. -/
def size (store : BlockStore) : Nat :=
  store.blocks.length

/-- The block at a position. -/
def get? (store : BlockStore) (position : Nat) : Option Block :=
  store.blocks[position]?

/-- The store with one more block at the end, whose identity is new. -/
def append (store : BlockStore) (block : Block)
    (h : store.positions.lookup block.identity = none) : BlockStore where
  blocks := store.blocks ++ [block]
  positions := (block.identity, store.size) :: store.positions
  indexes := store.indexes.append h

/-- Stores a block unless it is there; its position, and the store in any case. -/
def put (store : BlockStore) (block : Block) : Except AssemblyError Nat × BlockStore :=
  match h : store.positions.lookup block.identity with
  | some position =>
    -- the map gives positions of blocks only, so there is a text to compare
    if (store.get? position).map Block.canonical = some block.canonical then
      (.ok position, store)
    else (.error (.identityCollision block.identity), store)
  | none => (.ok store.size, store.append block h)

/-- Stores the block of a text unless it is there; its position, and the store in any case. -/
def insert (store : BlockStore) (text : String) : Except AssemblyError Nat × BlockStore :=
  store.put (Block.ofText text)

/-- The labels of the blocks. -/
def labels (store : BlockStore) : List String :=
  (List.range store.size).map blockLabel

/-- The blocks as text, each under its label. -/
def render (store : BlockStore) : String :=
  String.join (store.blocks.zipIdx.map fun (block, position) ↦
    blockLabel position ++ "\n" ++ block.text)

end BlockStore

end StepSequencer
