import StepSequencer.Proofs.Assembly.BlockStore
import StepSequencer.Proofs.Assembly.Faults
import StepSequencer.Proofs.Assembly.Placement

/-!
# The state of a compilation follows the channels compiled so far

A `Part` is a channel of a song with the place where it stands. `Follows` says what the state of
a compilation is after some parts: the store holds the distinct groups of these parts in the
order of first occurrence, and the tables and sequences are those of voices that name each group
by its place in that order.

`Agrees` relates the outcome of a fallible step to the list of faults it may meet: it succeeds
only without a fault and in a good state, and fails with the first fault, or because two groups
collide. Each function of the compiler has one lemma of this form, from `storeGroups_agrees` for
the groups of a channel up to `compile_agrees` for a whole song.
-/

set_option autoImplicit false
set_option relaxedAutoImplicit false

namespace StepSequencer

/-! ### Parts of a song -/

/-- A channel of a song, the physical channel that plays it, and the steps of its pattern. -/
structure Part where
  position : Nat
  steps : UInt8
  channel : Channel

/-- The parts of a pattern. -/
def Pattern.parts (pattern : Pattern) : List Part :=
  pattern.channels.zipIdx.map fun item ↦ ⟨item.2, pattern.steps, item.1⟩

/-- The parts of some patterns, in the order of the song. -/
def songParts (patterns : List Pattern) : List Part :=
  patterns.flatMap Pattern.parts

/-- The groups of a part. -/
def Part.groups (encoder : Encoder) (tuning : UInt8) (part : Part) : List (List Slot) :=
  channelGroups encoder tuning part.steps part.channel

/-- The groups of some parts. -/
def partGroups (encoder : Encoder) (tuning : UInt8) (parts : List Part) : List (List Slot) :=
  parts.flatMap (Part.groups encoder tuning)

/-- A part as a voice whose blocks are the places of its groups among the distinct ones of some
groups. -/
def Part.voice (encoder : Encoder) (tuning : UInt8) (groups : List (List Slot)) (part : Part) :
    Nat × Voice :=
  (part.position, ⟨part.channel.attenuate,
    (part.groups encoder tuning).map groups.eraseDups.idxOf⟩)

/-- The voices of some parts. -/
def partVoices (encoder : Encoder) (tuning : UInt8) (parts : List Part) : List (Nat × Voice) :=
  parts.map (Part.voice encoder tuning (partGroups encoder tuning parts))

theorem partGroups_append (encoder : Encoder) (tuning : UInt8) (first second : List Part) :
    partGroups encoder tuning (first ++ second) =
      partGroups encoder tuning first ++ partGroups encoder tuning second :=
  List.flatMap_append

theorem map_channel_parts (pattern : Pattern) :
    pattern.parts.map Part.channel = pattern.channels := by
  rw [Pattern.parts, List.map_map]
  exact List.zipIdx_map_fst 0 pattern.channels

/-- The groups of the parts of a pattern are those of its channels. -/
theorem partGroups_parts (encoder : Encoder) (tuning : UInt8) (pattern : Pattern) :
    partGroups encoder tuning pattern.parts =
      pattern.channels.flatMap (channelGroups encoder tuning pattern.steps) := by
  have hchannels := congrArg (List.flatMap (channelGroups encoder tuning pattern.steps))
    (List.zipIdx_map_fst 0 pattern.channels)
  rw [List.flatMap_map] at hchannels
  rw [partGroups, Pattern.parts, List.flatMap_map, ← hchannels]
  rfl

/-- More parts behind do not change the voices before. -/
theorem partVoices_append (encoder : Encoder) (tuning : UInt8) (parts : List Part) (part : Part) :
    partVoices encoder tuning (parts ++ [part]) = partVoices encoder tuning parts ++
      [part.voice encoder tuning (partGroups encoder tuning (parts ++ [part]))] := by
  rw [partVoices, List.map_append, List.map_singleton]
  refine congrArg (· ++ _) (List.map_congr_left fun other hother ↦ ?_)
  rw [Part.voice, Part.voice, partGroups_append]
  refine congrArg (fun blocks ↦ (other.position, Voice.mk other.channel.attenuate blocks))
    (List.map_congr_left fun group hgroup ↦ ?_)
  exact idxOf_eraseDups_append (List.mem_flatMap.mpr ⟨other, hother, hgroup⟩) _

theorem countOf_partVoices (encoder : Encoder) (tuning : UInt8) (kind : TableKind)
    (parts : List Part) :
    countOf kind (partVoices encoder tuning parts) =
      channelCount kind (parts.map Part.channel) := by
  rw [countOf, partVoices, channelCount, List.countP_map, List.countP_map]
  rfl

/-! ### Outcomes and faults -/

/-- Two of the groups collide. -/
def HasCollision (groups : List (List Slot)) : Prop :=
  ∃ first ∈ groups, ∃ second ∈ groups, Collide first second

/-- More groups do not take a collision away. -/
theorem HasCollision.mono {groups others : List (List Slot)} (h : HasCollision groups)
    (hsubset : groups ⊆ others) : HasCollision others := by
  obtain ⟨first, hfirst, second, hsecond, hcollide⟩ := h
  exact ⟨first, hsubset hfirst, second, hsubset hsecond, hcollide⟩

/-- An outcome agrees with a list of faults if it is good and there are none, or is the first of
them; unless there is a collision. -/
def Agrees {α : Type} (faults : List AssemblyError) (collision : Prop) (good : α → Prop) :
    Except AssemblyError α → Prop
  | .ok a => faults = [] ∧ good a
  | .error fault => faults.head? = some fault ∨ collision

/-- After a step that agrees with its faults, a run goes on to agree with all faults. -/
theorem Agrees.bind {α β : Type} {faults others : List AssemblyError}
    {collision later : Prop} {good : α → Prop} {final : β → Prop}
    {outcome : Except AssemblyError α} {next : α → Except AssemblyError β}
    (h : Agrees faults collision good outcome) (hcollision : collision → later)
    (hnext : ∀ a, faults = [] → good a → Agrees others later final (next a)) :
    Agrees (faults ++ others) later final (outcome.bind next) := by
  cases outcome with
  | error fault =>
    rcases h with hfault | hcollide
    · exact Or.inl (by rw [List.head?_append, hfault, Option.some_or])
    · exact Or.inr (hcollision hcollide)
  | ok a =>
    obtain ⟨hnone, hgood⟩ := h
    rw [hnone, List.nil_append]
    exact hnext a hnone hgood

/-- A check in front of a run adds its fault. -/
theorem Agrees.guard {α : Type} {others : List AssemblyError} {collision : Prop}
    {good : α → Prop} {outcome : Except AssemblyError α} {condition : Prop}
    [Decidable condition] {fault : AssemblyError}
    (h : condition → Agrees others collision good outcome) :
    Agrees ((if condition then [] else [fault]) ++ others) collision good
      (if condition then outcome else .error fault) := by
  by_cases hcondition : condition
  · rw [if_pos hcondition, if_pos hcondition]
    exact h hcondition
  · rw [if_neg hcondition, if_neg hcondition]
    exact Or.inl rfl

/-! ### The groups of a channel -/

/-- No slot of the group plays the code for a rest. -/
def unreserved (group : List Slot) : Bool :=
  group.all fun slot ↦ slot.code ≠ some restCode

/-- A group that is stored plays no reserved code. -/
theorem IsGroup.unreserved_eq_true {group : List Slot} (h : IsGroup group) :
    unreserved group = true :=
  List.all_eq_true.mpr fun slot hslot ↦ by simpa using h.code slot hslot

/-- What storing pieces of a channel does: their groups follow those that are stored, or the first
step with the reserved code is reported, or a group before it collides. In the induction each piece
that is stored becomes one of the groups before the next. -/
theorem storeGroups_agrees {encoder : Encoder} {tuning : UInt8} {store : BlockStore}
    {groups : List (List Slot)} {pieces : List (List (Option Step))}
    {added : List (List Slot)} (hstore : StoresGroups store groups)
    (hgroups : ∀ group ∈ groups, IsGroup group)
    (hlength : ∀ piece ∈ pieces, piece.length = slotsPerGroup)
    (hadded : pieces.map (List.map (sounding encoder tuning)) = added) :
    match storeGroups encoder tuning pieces store with
    | (.ok positions, next) =>
      (pieces.flatten.findSome? fun step ↦ step.bind (reservedFault? encoder tuning)) = none ∧
        positions = added.map (groups ++ added).eraseDups.idxOf ∧
          StoresGroups next (groups ++ added) ∧ ∀ group ∈ added, IsGroup group
    | (.error fault, _) =>
      (pieces.flatten.findSome? fun step ↦ step.bind (reservedFault? encoder tuning)) =
          some fault ∨ HasCollision (groups ++ added.takeWhile unreserved) := by
  induction pieces generalizing store groups added with
  | nil =>
    subst hadded
    simpa [storeGroups] using hstore
  | cons piece rest ih =>
    subst hadded
    have hpiece := hlength piece List.mem_cons_self
    have hrest : ∀ other ∈ rest, other.length = slotsPerGroup := fun other hother ↦
      hlength other (List.mem_cons_of_mem _ hother)
    rw [storeGroups, resolveGroup_eq, List.flatten_cons, List.findSome?_append]
    cases hreserved : piece.findSome? fun step ↦ step.bind (reservedFault? encoder tuning) with
    | some fault => exact Or.inl rfl
    | none =>
      have hgroup : IsGroup (piece.map (sounding encoder tuning)) :=
        ⟨by rw [List.length_map, hpiece], code_ne_restCode hreserved⟩
      rw [Option.none_or, List.map_cons, List.takeWhile_cons_of_pos hgroup.unreserved_eq_true]
      generalize piece.map (sounding encoder tuning) = group at hgroup
      rcases hstore.insert hgroups hgroup with
        ⟨next, hinsert, hnext⟩ | ⟨⟨identity, hinsert⟩, other, hother, hcollide⟩
      · have hall : ∀ other ∈ groups ++ [group], IsGroup other := by
          intro other hother
          rcases List.mem_append.mp hother with hother | hother
          · exact hgroups other hother
          · rw [List.mem_singleton.mp hother]
            exact hgroup
        have hlater := ih hnext hall hrest rfl
        simp only [List.append_assoc, List.singleton_append] at hlater
        simp only [hinsert]
        generalize storeGroups encoder tuning rest next = outcome at hlater
        obtain ⟨result, final⟩ := outcome
        cases result with
        | error fault => exact hlater
        | ok positions =>
          obtain ⟨hnone, rfl, hfinal, hothers⟩ := hlater
          refine ⟨hnone, ?_, hfinal, List.forall_mem_cons.mpr ⟨hgroup, hothers⟩⟩
          have hmem : group ∈ groups ++ [group] := List.mem_append_right _ List.mem_cons_self
          rw [List.map_cons, ← idxOf_eraseDups_append hmem, List.append_assoc,
            List.singleton_append]
      · simp only [hinsert]
        exact Or.inr ⟨other, List.mem_append_left _ hother, group, by simp, hcollide⟩

/-- The groups of a channel that are stored: all, or those before a step with the reserved
code; none of a channel whose steps do not fill the pattern. -/
def storedGroups (encoder : Encoder) (tuning steps : UInt8) (channel : Channel) :
    List (List Slot) :=
  if (0 < steps.toNat ∧ steps.toNat ∣ slotsPerPattern) ∧ channel.steps.length = steps.toNat then
    (channelGroups encoder tuning steps channel).takeWhile unreserved
  else []

/-- All groups of a channel without faults are stored. -/
theorem storedGroups_eq {encoder : Encoder} {tuning steps : UInt8} {channel : Channel}
    (hown : ownFaults encoder tuning steps channel = [])
    (hgroups : ∀ group ∈ channelGroups encoder tuning steps channel, IsGroup group) :
    storedGroups encoder tuning steps channel = channelGroups encoder tuning steps channel := by
  obtain ⟨hsteps, hlength, -⟩ := ownFaults_eq_nil_iff.mp hown
  have htake : (channelGroups encoder tuning steps channel ++ []).takeWhile unreserved =
      channelGroups encoder tuning steps channel ++ [].takeWhile unreserved :=
    List.takeWhile_append_of_pos fun group hgroup ↦ (hgroups group hgroup).unreserved_eq_true
  rw [storedGroups, if_pos ⟨hsteps, hlength⟩]
  simpa using htake

/-- What compiling a channel does: its groups follow those that are stored, or its first fault is
reported, or one of its groups collides. -/
theorem compileChannel_agrees (encoder : Encoder) (tuning steps : UInt8) (channel : Channel)
    {store : BlockStore} {groups : List (List Slot)} (hstore : StoresGroups store groups)
    (hgroups : ∀ group ∈ groups, IsGroup group) :
    match compileChannel encoder tuning steps channel store with
    | (.ok voice, next) =>
      ownFaults encoder tuning steps channel = [] ∧
        voice = ⟨channel.attenuate, (channelGroups encoder tuning steps channel).map
          (groups ++ channelGroups encoder tuning steps channel).eraseDups.idxOf⟩ ∧
        StoresGroups next (groups ++ channelGroups encoder tuning steps channel) ∧
          ∀ group ∈ channelGroups encoder tuning steps channel, IsGroup group
    | (.error fault, _) =>
      (ownFaults encoder tuning steps channel).head? = some fault ∨
        HasCollision (groups ++ storedGroups encoder tuning steps channel) := by
  rw [compileChannel, ownFaults, storedGroups]
  cases hincrement : slotIncrement steps with
  | none =>
    have hsteps : ¬ (0 < steps.toNat ∧ steps.toNat ∣ slotsPerPattern) := by
      rintro ⟨hpos, hdvd⟩
      rw [slotIncrement_eq_some_iff.mpr ⟨hpos, hdvd, rfl⟩] at hincrement
      exact absurd hincrement (by simp)
    rw [if_neg hsteps]
    exact Or.inl rfl
  | some increment =>
    obtain ⟨hpos, hdvd, -⟩ := slotIncrement_eq_some_iff.mp hincrement
    rw [if_pos ⟨hpos, hdvd⟩, List.nil_append]
    by_cases hlength : channel.steps.length = steps.toNat
    · have hstored := storeGroups_agrees hstore hgroups
        (length_of_mem_cut_spread hincrement hlength)
        (map_sounding_cut_spread encoder tuning hincrement hlength)
      rw [flatten_cut (by decide), findSome?_spread] at hstored
      simp only [hlength, ne_eq, not_true_eq_false, ↓reduceIte, hpos, hdvd, and_self,
        List.nil_append, List.head?_filterMap]
      generalize storeGroups encoder tuning
        (cut slotsPerGroup (spread increment channel.steps)) store = outcome at hstored
      obtain ⟨result, next⟩ := outcome
      cases result with
      | error fault => exact hstored
      | ok positions =>
        obtain ⟨hnone, rfl, hnext, hall⟩ := hstored
        refine ⟨List.filterMap_eq_nil_iff.mpr fun step hstep ↦ ?_, rfl, hnext, hall⟩
        exact List.findSome?_eq_none_iff.mp hnone step hstep
    · simp only [ne_eq, hlength, not_false_eq_true, ↓reduceIte]
      exact Or.inl rfl

/-! ### A whole song -/

/-- The state of a compilation follows the parts compiled so far. -/
structure Follows (encoder : Encoder) (tuning : UInt8) (parts : List Part)
    (compilation : Compilation) : Prop where
  groups : ∀ group ∈ partGroups encoder tuning parts, IsGroup group
  store : StoresGroups compilation.store (partGroups encoder tuning parts)
  arrangement : compilation.arrangement = arranged (partVoices encoder tuning parts)
  room : Fits (parts.map Part.channel)

theorem follows_nil (encoder : Encoder) (tuning : UInt8) : Follows encoder tuning [] {} where
  groups := by simp [partGroups]
  store := rfl
  arrangement := rfl
  room := fits_nil

variable {encoder : Encoder} {tuning : UInt8}

/-- Compiling one more part. -/
theorem addChannel_agrees {compilation : Compilation} {parts : List Part}
    (h : Follows encoder tuning parts compilation) {position : Nat}
    (hposition : position < channelsPerPattern) (steps : UInt8) (channel : Channel) :
    Agrees (ownFaults encoder tuning steps channel ++
        tableFaults (parts.map Part.channel) channel)
      (HasCollision (partGroups encoder tuning parts ++
        storedGroups encoder tuning steps channel))
      (Follows encoder tuning (parts ++ [⟨position, steps, channel⟩]))
      (compilation.addChannel encoder tuning steps position channel) := by
  have hcompiled := compileChannel_agrees encoder tuning steps channel h.store h.groups
  rw [Compilation.addChannel]
  generalize compileChannel encoder tuning steps channel compilation.store = outcome at hcompiled
  obtain ⟨result, next⟩ := outcome
  cases result with
  | error fault =>
    rcases hcompiled with hfault | hcollision
    · exact Or.inl (by rw [List.head?_append, hfault, Option.some_or])
    · exact Or.inr hcollision
  | ok voice =>
    obtain ⟨hown, hvoice, hnext, hall⟩ := hcompiled
    have hgroups : partGroups encoder tuning (parts ++ [⟨position, steps, channel⟩]) =
        partGroups encoder tuning parts ++ channelGroups encoder tuning steps channel := by
      rw [partGroups_append]
      simp [partGroups, Part.groups]
    have hkind : voice.kind = channel.kind := by
      rw [hvoice]
      rfl
    have hadd := add_arranged (partVoices encoder tuning parts) hposition voice
    rw [countOf_partVoices, hkind] at hadd
    simp only [h.arrangement, hadd]
    rw [hown, List.nil_append, tableFaults]
    by_cases hfull : channel.kind.capacity ≤ channelCount channel.kind (parts.map Part.channel)
    · rw [if_pos hfull, if_pos hfull]
      exact Or.inl rfl
    · rw [if_neg hfull, if_neg hfull]
      refine ⟨rfl, ?_, ?_, ?_, ?_⟩
      · rw [hgroups]
        exact fun group hgroup ↦ (List.mem_append.mp hgroup).elim (h.groups group) (hall group)
      · rw [hgroups]
        exact hnext
      · rw [partVoices_append, hgroups, hvoice]
        rfl
      · rw [List.map_append]
        refine (tableFaults_eq_nil_iff h.room channel).mp ?_
        rw [tableFaults, if_neg hfull]

/-- Compiling the channels of a pattern from a position on. -/
theorem addChannels_agrees {compilation : Compilation} {parts : List Part}
    (h : Follows encoder tuning parts compilation) (steps : UInt8) (position : Nat)
    (channels : List Channel) (hposition : position + channels.length ≤ channelsPerPattern) :
    Agrees (channelFaults encoder tuning steps (parts.map Part.channel) channels)
      (HasCollision (partGroups encoder tuning parts ++
        channels.flatMap (storedGroups encoder tuning steps)))
      (Follows encoder tuning (parts ++ (channels.zipIdx position).map fun item ↦
        ⟨item.2, steps, item.1⟩))
      (Compilation.addChannels encoder tuning steps compilation position channels) := by
  induction channels generalizing compilation parts position with
  | nil => simpa [Compilation.addChannels, channelFaults, Agrees] using h
  | cons channel rest ih =>
    rw [List.length_cons] at hposition
    have hstep := addChannel_agrees h (by omega : position < channelsPerPattern) steps channel
    have hrun : Compilation.addChannels encoder tuning steps compilation position
        (channel :: rest) =
        (compilation.addChannel encoder tuning steps position channel).bind fun next ↦
          Compilation.addChannels encoder tuning steps next (position + 1) rest := by
      rw [Compilation.addChannels]
      cases compilation.addChannel encoder tuning steps position channel <;> rfl
    rw [hrun, channelFaults]
    refine hstep.bind (fun hcollision ↦ hcollision.mono ?_) fun next hnone hnext ↦ ?_
    · simp
    · have hrest := ih hnext (position + 1) (by omega)
      have hgroups : partGroups encoder tuning (parts ++ [⟨position, steps, channel⟩]) =
          partGroups encoder tuning parts ++ channelGroups encoder tuning steps channel := by
        rw [partGroups_append]
        simp [partGroups, Part.groups]
      have hstored := storedGroups_eq (List.append_eq_nil_iff.mp hnone).1 fun group hgroup ↦
        hnext.groups group (hgroups ▸ List.mem_append_right _ hgroup)
      rw [hgroups, ← hstored] at hrest
      simpa [List.flatMap_cons] using hrest

/-- The groups of a song that a compilation stores. -/
def occurringGroups (encoder : Encoder) (tuning : UInt8) (patterns : List Pattern) :
    List (List Slot) :=
  patterns.flatMap fun pattern ↦
    if pattern.channels.length = channelsPerPattern then
      pattern.channels.flatMap (storedGroups encoder tuning pattern.steps)
    else []

/-- Compiling patterns from a position on. The state follows the parts of the patterns before, which
grow with every pattern. -/
theorem addPatterns_agrees {compilation : Compilation} {parts : List Part}
    (h : Follows encoder tuning parts compilation) (position : Nat) (patterns : List Pattern) :
    Agrees (faultsFrom encoder tuning position (parts.map Part.channel) patterns)
      (HasCollision (partGroups encoder tuning parts ++ occurringGroups encoder tuning patterns))
      (Follows encoder tuning (parts ++ songParts patterns))
      (Compilation.addPatterns encoder tuning compilation position patterns) := by
  induction patterns generalizing compilation parts position with
  | nil => simpa [Compilation.addPatterns, faultsFrom, songParts, Agrees] using h
  | cons pattern rest ih =>
    have hrun : Compilation.addPatterns encoder tuning compilation position (pattern :: rest) =
        if pattern.channels.length = channelsPerPattern then
          (Compilation.addChannels encoder tuning pattern.steps compilation 0
            pattern.channels).bind fun next ↦
              Compilation.addPatterns encoder tuning next (position + 1) rest
        else .error (.wrongChannelCount position pattern.channels.length) := by
      rw [Compilation.addPatterns]
      by_cases hlength : pattern.channels.length = channelsPerPattern
      · rw [if_neg (not_not_intro hlength), if_pos hlength]
        cases Compilation.addChannels encoder tuning pattern.steps compilation 0
          pattern.channels <;> rfl
      · rw [if_pos hlength, if_neg hlength]
    rw [hrun, faultsFrom, List.append_assoc]
    refine Agrees.guard fun hlength ↦ ?_
    have hgroups : occurringGroups encoder tuning (pattern :: rest) =
        pattern.channels.flatMap (storedGroups encoder tuning pattern.steps) ++
          occurringGroups encoder tuning rest := by
      rw [occurringGroups, List.flatMap_cons, if_pos hlength]
      rfl
    have hchannels := addChannels_agrees h pattern.steps 0 pattern.channels (by omega)
    refine hchannels.bind (fun hcollision ↦ hcollision.mono ?_) fun next hnone hnext ↦ ?_
    · rw [hgroups, ← List.append_assoc]
      exact List.subset_append_left _ _
    · have hnext : Follows encoder tuning (parts ++ pattern.parts) next := hnext
      have hrest := ih hnext (position + 1)
      have hown := ((channelFaults_eq_nil_iff h.room).mp hnone).1
      have hstored : pattern.channels.flatMap (storedGroups encoder tuning pattern.steps) =
          partGroups encoder tuning pattern.parts := by
        rw [partGroups_parts, List.flatMap_def, List.flatMap_def]
        refine congrArg List.flatten (List.map_congr_left fun channel hchannel ↦ ?_)
        refine storedGroups_eq (hown channel hchannel) fun group hgroup ↦ hnext.groups group ?_
        rw [partGroups_append, partGroups_parts]
        exact List.mem_append_right _ (List.mem_flatMap.mpr ⟨channel, hchannel, hgroup⟩)
      rw [hgroups, hstored]
      simpa [partGroups_append, map_channel_parts, songParts] using hrest

/-- Compiling a song agrees with its faults. -/
theorem compile_agrees (encoder : Encoder) (tuning : UInt8) (patterns : List Pattern) :
    Agrees (songFaults encoder tuning patterns)
      (HasCollision (occurringGroups encoder tuning patterns))
      (Follows encoder tuning (songParts patterns)) (compile encoder tuning patterns) :=
  addPatterns_agrees (follows_nil encoder tuning) 0 patterns

end StepSequencer
