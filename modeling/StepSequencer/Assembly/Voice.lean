import StepSequencer.Assembly.BlockStore
import StepSequencer.Assembly.Group

/-!
# Compiled channels

`compileChannel` turns a channel into the positions of its four blocks. The groups are made and
stored one after the other, so when a step of a later group has no valid code, the groups before
it are in the store already: the store is returned in every case.
-/

set_option autoImplicit false
set_option relaxedAutoImplicit false

namespace StepSequencer

/-- A compiled channel: whether it is attenuated, and the positions of its blocks. -/
structure Voice where
  attenuate : Bool
  blocks : List Nat
deriving DecidableEq, Repr

/-- The slots of a group, unless a step has the reserved code. -/
def resolveGroup (encoder : Encoder) (tuning : UInt8) (group : List (Option Step)) :
    Except AssemblyError (List Slot) :=
  group.mapM (Slot.ofStep? encoder tuning)

/-- Makes and stores groups one after the other; their positions, and the store in any case. -/
def storeGroups (encoder : Encoder) (tuning : UInt8) :
    List (List (Option Step)) → BlockStore → Except AssemblyError (List Nat) × BlockStore
  | [], store => (.ok [], store)
  | group :: rest, store =>
    match resolveGroup encoder tuning group with
    | .error e => (.error e, store)
    | .ok slots =>
      match store.insert (groupText slots) with
      | (.error e, store) => (.error e, store)
      | (.ok position, store) =>
        match storeGroups encoder tuning rest store with
        | (.error e, store) => (.error e, store)
        | (.ok positions, store) => (.ok (position :: positions), store)

/-- Compiles a channel of a pattern with a number of steps; the store is returned in any
case. -/
def compileChannel (encoder : Encoder) (tuning steps : UInt8) (channel : Channel)
    (store : BlockStore) : Except AssemblyError Voice × BlockStore :=
  match slotIncrement steps with
  | none => (.error (.invalidStepCount steps), store)
  | some increment =>
    if channel.steps.length ≠ steps.toNat then
      (.error (.stepCountMismatch steps.toNat channel.steps.length), store)
    else
      match storeGroups encoder tuning (cut slotsPerGroup (spread increment channel.steps))
          store with
      | (.error e, store) => (.error e, store)
      | (.ok positions, store) => (.ok ⟨channel.attenuate, positions⟩, store)

end StepSequencer
