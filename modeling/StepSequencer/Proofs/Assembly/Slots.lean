import StepSequencer.Assembly.Voice

/-!
# What the slots of a channel play

`slotAt` says for each of the 32 slots of a pattern what a channel plays there, and
`channelGroups` collects the slots in groups of eight. They speak of one slot at a time, by its
number; the compiler spreads the steps and cuts the result. `map_sounding_cut_spread` shows that
both are the same for a channel whose steps fill a pattern, and `resolveGroup_eq` that the
compiler resolves a group to these slots unless a step has the reserved code, in which case the
first such step is reported.
-/

set_option autoImplicit false
set_option relaxedAutoImplicit false

namespace StepSequencer

/-! ### Slots by their number -/

/-- The step that starts at a slot, where every step covers `increment` slots. -/
def stepAt (increment : Nat) (steps : List Step) (slot : Nat) : Option Step :=
  if slot % increment = 0 then steps[slot / increment]? else none

/-- What a slot plays at which a step may start. The code zero is a rest, and a rest is never
accented. -/
def sounding (encoder : Encoder) (tuning : UInt8) : Option Step → Slot
  | none => {}
  | some step =>
    match encoder tuning step with
    | none => {}
    | some code => if code = 0 then {} else ⟨some code, step.accent⟩

/-- What a channel plays at a slot. -/
def slotAt (encoder : Encoder) (tuning : UInt8) (increment : Nat) (steps : List Step)
    (slot : Nat) : Slot :=
  sounding encoder tuning (stepAt increment steps slot)

/-- The groups of eight slots of a channel in a pattern with a number of steps. -/
def channelGroups (encoder : Encoder) (tuning steps : UInt8) (channel : Channel) :
    List (List Slot) :=
  (List.range groupsPerPattern).map fun group ↦
    (List.range slotsPerGroup).map fun place ↦
      slotAt encoder tuning (slotsPerPattern / steps.toNat) channel.steps
        (slotsPerGroup * group + place)

theorem length_channelGroups (encoder : Encoder) (tuning steps : UInt8) (channel : Channel) :
    (channelGroups encoder tuning steps channel).length = groupsPerPattern := by
  simp [channelGroups]

/-- Every group of a channel has eight slots. -/
theorem length_of_mem_channelGroups {encoder : Encoder} {tuning steps : UInt8}
    {channel : Channel} {group : List Slot}
    (h : group ∈ channelGroups encoder tuning steps channel) :
    group.length = slotsPerGroup := by
  obtain ⟨number, -, rfl⟩ := List.mem_map.mp h
  simp

/-! ### Spreading and cutting -/

/-- The steps fill a pattern evenly exactly when there are some and their number divides 32. -/
theorem slotIncrement_eq_some_iff {steps : UInt8} {increment : Nat} :
    slotIncrement steps = some increment ↔
      0 < steps.toNat ∧ steps.toNat ∣ slotsPerPattern ∧
        increment = slotsPerPattern / steps.toNat := by
  unfold slotIncrement
  split
  case isTrue h =>
    simp only [reduceCtorEq, false_iff]
    rintro ⟨hpos, hdvd, -⟩
    rcases h with hzero | hmod
    · omega
    · exact hmod (Nat.mod_eq_zero_of_dvd hdvd)
  case isFalse h =>
    simp only [not_or, ne_eq, Decidable.not_not] at h
    simp only [Option.some.injEq]
    constructor
    · intro heq
      exact ⟨Nat.pos_of_ne_zero h.1, Nat.dvd_of_mod_eq_zero h.2, heq.symm⟩
    · rintro ⟨-, -, heq⟩
      exact heq.symm

/-- Every step takes as many slots as the increment says. -/
theorem length_spread {increment : Nat} (hpos : 0 < increment) (steps : List Step) :
    (spread increment steps).length = increment * steps.length := by
  induction steps with
  | nil => simp [spread]
  | cons step rest ih =>
    have hcons : spread increment (step :: rest) =
        (some step :: List.replicate (increment - 1) none) ++ spread increment rest := by
      simp [spread]
    rw [hcons, List.length_append, ih, List.length_cons, List.length_cons,
      List.length_replicate, Nat.mul_succ]
    omega

/-- Slot `s` of the spread steps starts step `s / increment`, if `increment` divides `s`. -/
theorem getElem?_spread {increment : Nat} (hpos : 0 < increment) (steps : List Step)
    {slot : Nat} (h : slot < increment * steps.length) :
    (spread increment steps)[slot]? = some (stepAt increment steps slot) := by
  induction steps generalizing slot with
  | nil => simp at h
  | cons step rest ih =>
    have hcons : spread increment (step :: rest) =
        (some step :: List.replicate (increment - 1) none) ++ spread increment rest := by
      simp [spread]
    have hfront : (some step :: List.replicate (increment - 1) (none : Option Step)).length =
        increment := by
      rw [List.length_cons, List.length_replicate]
      omega
    rw [hcons]
    by_cases hslot : slot < increment
    · rw [List.getElem?_append_left (by omega)]
      cases slot with
      | zero => simp [stepAt]
      | succ slot =>
        have hmod : (slot + 1) % increment ≠ 0 := by
          rw [Nat.mod_eq_of_lt hslot]
          omega
        rw [stepAt, if_neg hmod, List.getElem?_cons_succ, List.getElem?_replicate,
          if_pos (by omega)]
    · have hle : increment ≤ slot := Nat.le_of_not_lt hslot
      rw [List.getElem?_append_right (by omega), hfront]
      rw [List.length_cons, Nat.mul_succ] at h
      rw [ih (by omega)]
      have hmod : (slot - increment) % increment = slot % increment :=
        (Nat.mod_eq_sub_mod hle).symm
      have hdiv : slot / increment = (slot - increment) / increment + 1 :=
        Nat.div_eq_sub_div hpos hle
      rw [stepAt, stepAt, hmod, hdiv, List.getElem?_cons_succ]

/-- The pieces of a list make up the list. -/
theorem flatten_cut {α : Type} {size : Nat} (hpos : 0 < size) (list : List α) :
    (cut size list).flatten = list := by
  have hpieces : ∀ count : Nat,
      ((List.range count).map fun n ↦ (list.drop (size * n)).take size).flatten =
        list.take (size * count) := by
    intro count
    induction count with
    | zero => simp
    | succ count ih =>
      rw [List.range_succ, List.map_append, List.flatten_append, ih, Nat.mul_succ,
        List.take_add]
      simp
  have henough : list.length ≤ size * ((list.length + size - 1) / size) := by
    have hdiv := Nat.div_add_mod (list.length + size - 1) size
    have hmod := Nat.mod_lt (list.length + size - 1) hpos
    omega
  rw [cut, hpieces, List.take_of_length_le henough]

/-- Spread and cut into groups, a channel that fills a pattern has the slots that `slotAt`
gives. -/
theorem map_sounding_cut_spread (encoder : Encoder) (tuning : UInt8) {steps : UInt8}
    {increment : Nat} {channel : Channel} (hincrement : slotIncrement steps = some increment)
    (hlength : channel.steps.length = steps.toNat) :
    (cut slotsPerGroup (spread increment channel.steps)).map
        (List.map (sounding encoder tuning)) =
      channelGroups encoder tuning steps channel := by
  obtain ⟨hpos, hdvd, rfl⟩ := slotIncrement_eq_some_iff.mp hincrement
  have hslots : slotsPerPattern / steps.toNat * channel.steps.length = slotsPerPattern := by
    rw [hlength]
    exact Nat.div_mul_cancel hdvd
  have hincrementPos : 0 < slotsPerPattern / steps.toNat :=
    Nat.div_pos (Nat.le_of_dvd (by decide) hdvd) hpos
  have hspread := length_spread hincrementPos channel.steps
  have hcount : ((spread (slotsPerPattern / steps.toNat) channel.steps).length +
      slotsPerGroup - 1) / slotsPerGroup = groupsPerPattern := by
    rw [hspread, hslots]
    rfl
  rw [cut, hcount, channelGroups, List.map_map]
  refine List.map_congr_left fun group hgroup ↦ ?_
  have hgroup : group < groupsPerPattern := List.mem_range.mp hgroup
  have hbound : slotsPerGroup * group + slotsPerGroup ≤ slotsPerPattern := by
    simp only [groupsPerPattern, slotsPerPattern, slotsPerGroup] at hgroup ⊢
    omega
  apply List.ext_getElem?
  intro place
  by_cases hplace : place < slotsPerGroup
  · have hslot : slotsPerGroup * group + place <
        slotsPerPattern / steps.toNat * channel.steps.length := by
      omega
    simp [List.getElem?_drop, hplace,
      getElem?_spread hincrementPos channel.steps hslot, slotAt]
  · rw [List.getElem?_eq_none, List.getElem?_eq_none]
    · rw [List.length_map, List.length_range]
      omega
    · rw [Function.comp_apply, List.length_map, List.length_take]
      omega

/-- Every piece of the steps of a channel that fills a pattern covers eight slots. -/
theorem length_of_mem_cut_spread {steps : UInt8} {increment : Nat} {channel : Channel}
    (hincrement : slotIncrement steps = some increment)
    (hlength : channel.steps.length = steps.toNat) :
    ∀ piece ∈ cut slotsPerGroup (spread increment channel.steps),
      piece.length = slotsPerGroup := by
  intro piece hpiece
  have hmem : piece.map (sounding (fun _ _ ↦ none) 0) ∈
      channelGroups (fun _ _ ↦ none) 0 steps channel := by
    rw [← map_sounding_cut_spread (fun _ _ ↦ none) 0 hincrement hlength]
    exact List.mem_map_of_mem hpiece
  simpa using length_of_mem_channelGroups hmem

/-! ### The reserved code -/

/-- The fault for a step that has the reserved code. -/
def reservedFault? (encoder : Encoder) (tuning : UInt8) (step : Step) : Option AssemblyError :=
  if encoder tuning step = some restCode then
    some (.reservedCode step.sound step.note step.octave)
  else none

/-- A slot is resolved to what it plays unless its step has the reserved code. -/
theorem ofStep?_eq (encoder : Encoder) (tuning : UInt8) (step : Option Step) :
    Slot.ofStep? encoder tuning step =
      match step.bind (reservedFault? encoder tuning) with
      | some fault => .error fault
      | none => .ok (sounding encoder tuning step) := by
  cases step with
  | none => rfl
  | some step =>
    simp only [Slot.ofStep?, Slot.ofStep, Option.bind_some, reservedFault?, sounding]
    cases hcode : encoder tuning step with
    | none => simp
    | some code =>
      by_cases hrest : code = restCode
      · simp [hrest]
      · by_cases hzero : code = 0
        · have hne : (0 : UInt8) ≠ restCode := by decide
          simp [hzero, hne]
        · simp [hrest, hzero]

/-- A group is resolved to what its slots play unless a step has the reserved code; of several
such steps the first is reported. -/
theorem resolveGroup_eq (encoder : Encoder) (tuning : UInt8) (group : List (Option Step)) :
    resolveGroup encoder tuning group =
      match group.findSome? fun step ↦ step.bind (reservedFault? encoder tuning) with
      | some fault => .error fault
      | none => .ok (group.map (sounding encoder tuning)) := by
  induction group with
  | nil => rfl
  | cons step rest ih =>
    rw [resolveGroup] at ih
    rw [resolveGroup, List.mapM_cons, ofStep?_eq, ih, List.findSome?_cons]
    cases step.bind (reservedFault? encoder tuning) with
    | some fault => rfl
    | none =>
      cases rest.findSome? fun step ↦ step.bind (reservedFault? encoder tuning) <;> rfl

/-- Spreading the steps neither hides nor adds a reserved code. -/
theorem findSome?_spread (encoder : Encoder) (tuning : UInt8) (increment : Nat)
    (steps : List Step) :
    (spread increment steps).findSome? (fun step ↦ step.bind (reservedFault? encoder tuning)) =
      steps.findSome? (reservedFault? encoder tuning) := by
  induction steps with
  | nil => rfl
  | cons step rest ih =>
    have hcons : spread increment (step :: rest) =
        some step :: (List.replicate (increment - 1) none ++ spread increment rest) := by
      simp [spread]
    have hempty : (List.replicate (increment - 1) (none : Option Step)).findSome?
        (fun step ↦ step.bind (reservedFault? encoder tuning)) = none := by
      simp
    rw [hcons, List.findSome?_cons, List.findSome?_append, hempty, ih, List.findSome?_cons,
      Option.bind_some, Option.none_or]

/-- A group without a reserved code plays no code that stands for a rest. -/
theorem code_ne_restCode {encoder : Encoder} {tuning : UInt8} {group : List (Option Step)}
    (h : group.findSome? (fun step ↦ step.bind (reservedFault? encoder tuning)) = none) :
    ∀ slot ∈ group.map (sounding encoder tuning), slot.code ≠ some restCode := by
  intro slot hslot
  obtain ⟨step, hstep, rfl⟩ := List.mem_map.mp hslot
  have hnone := List.findSome?_eq_none_iff.mp h step hstep
  cases step with
  | none => simp [sounding]
  | some step =>
    have hcode : encoder tuning step ≠ some restCode := by
      intro heq
      simp [reservedFault?, heq] at hnone
    simp only [sounding]
    cases hencoded : encoder tuning step with
    | none => simp
    | some code =>
      rw [hencoded] at hcode
      by_cases hzero : code = 0
      · simp [hzero]
      · simpa [hzero] using hcode

end StepSequencer
