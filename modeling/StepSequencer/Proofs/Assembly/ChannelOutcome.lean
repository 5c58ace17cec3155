import StepSequencer.Proofs.Assembly.Session

/-!
# All that compiling a channel can do

A channel may be compiled into any store, whatever was put there before. `compileChannel_writes`
says what a voice leads to: the blocks of the voice have the texts of the 32 slots, eight at a time,
and every step has one slot. `compileChannel_leaves` says what is left behind in every case: nothing
if the steps do not fill the pattern, all groups if the channel is compiled, and the groups before
that of the first step with the reserved code if there is one.

The second rests on `storeGroups_cases`: as long as no two texts share an identity, the groups are
stored one after the other up to the first with a reserved code. Where that is follows from the
number of the step, because step `j` has slot `j * increment` (`takeWhile_channelGroups`).
-/

set_option autoImplicit false
set_option relaxedAutoImplicit false

namespace StepSequencer

/-! ### The steps of a channel in its slots -/

/-- The steps that are spread over slots are there once each, in order. -/
theorem filterMap_spread (increment : Nat) (steps : List Step) :
    (spread increment steps).filterMap id = steps := by
  have hrests : (List.replicate (increment - 1) (none : Option Step)).filterMap id = [] := by
    simp
  induction steps with
  | nil => rfl
  | cons step rest ih =>
    have hcons : spread increment (step :: rest) =
        some step :: (List.replicate (increment - 1) none ++ spread increment rest) := by
      simp [spread]
    have hstep : id (some step) = some step := rfl
    rw [hcons, List.filterMap_cons_some hstep, List.filterMap_append, hrests, List.nil_append, ih]

/-- The spread steps are the steps that start at the slots from the first to the last. -/
theorem spread_eq_map_stepAt {increment : Nat} (hpos : 0 < increment) (steps : List Step) :
    spread increment steps =
      (List.range (increment * steps.length)).map (stepAt increment steps) := by
  apply List.ext_getElem?
  intro slot
  by_cases hslot : slot < increment * steps.length
  · rw [getElem?_spread hpos steps hslot, List.getElem?_map, List.getElem?_range hslot,
      Option.map_some]
  · have hlength := length_spread hpos steps
    rw [List.getElem?_eq_none (by omega), List.getElem?_eq_none]
    rw [List.length_map, List.length_range]
    omega

/-- Slot by slot, every step of a channel that fills a pattern is met once, in order. -/
theorem filterMap_stepAt {steps : UInt8} {channel : Channel}
    (hsteps : 0 < steps.toNat ∧ steps.toNat ∣ slotsPerPattern)
    (hlength : channel.steps.length = steps.toNat) :
    (List.range slotsPerPattern).filterMap
      (stepAt (slotsPerPattern / steps.toNat) channel.steps) = channel.steps := by
  have hpos : 0 < slotsPerPattern / steps.toNat :=
    Nat.div_pos (Nat.le_of_dvd (by decide) hsteps.2) hsteps.1
  have hslots : slotsPerPattern / steps.toNat * channel.steps.length = slotsPerPattern := by
    rw [hlength]
    exact Nat.div_mul_cancel hsteps.2
  have hspread := spread_eq_map_stepAt hpos channel.steps
  rw [hslots] at hspread
  have hmet := filterMap_spread (slotsPerPattern / steps.toNat) channel.steps
  rw [hspread, List.filterMap_map] at hmet
  exact hmet

/-! ### What a voice leads to -/

/-- A voice leads to the slots of its channel: every group of eight has a block, and every step a
slot. What was in the store before is still there. -/
structure Writes (encoder : Encoder) (tuning steps : UInt8) (channel : Channel)
    (store : BlockStore) (voice : Voice) (next : BlockStore) : Prop where
  fills : 0 < steps.toNat ∧ steps.toNat ∣ 32
  length_steps : channel.steps.length = steps.toNat
  attenuate : voice.attenuate = channel.attenuate
  length_blocks : voice.blocks.length = 4
  canonical : ∀ group < 4, ∃ position block, voice.blocks[group]? = some position ∧
    next.get? position = some block ∧ block.canonical =
      Text.trim (slotsText encoder tuning (32 / steps.toNat) channel.steps group)
  used : (List.range 32).filterMap (stepAt (32 / steps.toNat) channel.steps) = channel.steps
  stays : ∀ position block, store.get? position = some block → next.get? position = some block

/-- A channel that is compiled fills its pattern, whose step count divides the slots. -/
theorem fills_of_compileChannel {encoder : Encoder} {tuning steps : UInt8} {channel : Channel}
    {store next : BlockStore} {voice : Voice}
    (h : compileChannel encoder tuning steps channel store = (.ok voice, next)) :
    (0 < steps.toNat ∧ steps.toNat ∣ slotsPerPattern) ∧ channel.steps.length = steps.toNat := by
  unfold compileChannel at h
  split at h
  · cases h
  · rename_i increment hincrement
    obtain ⟨hpos, hdvd, -⟩ := slotIncrement_eq_some_iff.mp hincrement
    by_cases hlength : channel.steps.length = steps.toNat
    · exact ⟨⟨hpos, hdvd⟩, hlength⟩
    · rw [if_pos hlength] at h
      cases h

/-- A channel that is compiled, into whatever store, is there slot by slot. -/
theorem compileChannel_writes {encoder : Encoder} {tuning steps : UInt8} {channel : Channel}
    {store next : BlockStore} {voice : Voice}
    (h : compileChannel encoder tuning steps channel store = (.ok voice, next)) :
    Writes encoder tuning steps channel store voice next := by
  obtain ⟨hattenuate, hnames⟩ := names_of_compileChannel h
  obtain ⟨hfills, hlength⟩ := fills_of_compileChannel h
  have hgrows := prefix_compileChannel encoder tuning steps channel store
  rw [h] at hgrows
  have hblocks : voice.blocks.length = 4 := by
    rw [hnames.length_eq, length_channelGroups]
    rfl
  refine ⟨hfills, hlength, hattenuate, hblocks, ?_, filterMap_stepAt hfills hlength, ?_⟩
  · intro group hgroup
    have hname := congrArg (fun list ↦ list[group]?) hnames.map_canonical
    simp only [channelTexts, List.getElem?_map, List.getElem?_range hgroup, Option.map_some]
      at hname
    obtain ⟨position, hposition, hfound⟩ := Option.map_eq_some_iff.mp hname
    obtain ⟨block, hblock, hcanonical⟩ := Option.map_eq_some_iff.mp hfound
    exact ⟨position, block, hposition, hblock, hcanonical⟩
  · intro position block hblock
    exact BlockStore.get?_mono hgrows hblock

/-- A channel of two steps, of which the second has the code zero. -/
def sparseChannel : Channel :=
  ⟨true, [{ sound := some 7, accent := true }, { sound := some 0, accent := true }]⟩

/-- A store that holds a group of rests already. -/
def restStore : BlockStore :=
  (BlockStore.insert {} (groupText (List.replicate 8 {}))).2

/-- The groups of rests go to the block that is there already, and the code zero is played as a
rest. -/
theorem writes_sparseChannel :
    ∃ next, compileChannel (fun _ step ↦ step.sound) 0 2 sparseChannel restStore =
        (.ok ⟨true, [1, 0, 0, 0]⟩, next) ∧
      Writes (fun _ step ↦ step.sound) 0 2 sparseChannel restStore ⟨true, [1, 0, 0, 0]⟩ next := by
  have hvoice : (compileChannel (fun _ step ↦ step.sound) 0 2 sparseChannel restStore).1.toOption =
      some ⟨true, [1, 0, 0, 0]⟩ := by
    decide +kernel
  rcases hcompile : compileChannel (fun _ step ↦ step.sound) 0 2 sparseChannel restStore with
    ⟨fault | voice, next⟩
  · rw [hcompile] at hvoice
    cases hvoice
  · rw [hcompile] at hvoice
    obtain rfl : voice = ⟨true, [1, 0, 0, 0]⟩ := Option.some.inj hvoice
    exact ⟨next, rfl, compileChannel_writes hcompile⟩

/-! ### Groups up to the first fault -/

/-- A step has no fault exactly when it does not have the reserved code. -/
theorem reservedFault?_eq_none_iff {encoder : Encoder} {tuning : UInt8} {step : Step} :
    reservedFault? encoder tuning step = none ↔ encoder tuning step ≠ some 255 := by
  rw [reservedFault?]
  split <;> simp_all [restCode]

/-- A slot has the reserved code exactly when a step with this code starts there. -/
theorem code_sounding_eq_restCode_iff {encoder : Encoder} {tuning : UInt8}
    {start : Option Step} :
    (sounding encoder tuning start).code = some restCode ↔
      ∃ step, start = some step ∧ encoder tuning step = some restCode := by
  cases start with
  | none => simp [sounding]
  | some step =>
    rw [sounding]
    cases hcode : encoder tuning step with
    | none => simp [hcode]
    | some code =>
      by_cases hzero : code = 0
      · have hne : (0 : UInt8) ≠ restCode := by decide
        simp [hcode, hzero, hne]
      · simp [hcode, hzero]

theorem unreserved_iff {group : List Slot} :
    unreserved group = true ↔ ∀ slot ∈ group, slot.code ≠ some restCode := by
  simp [unreserved]

/-- A piece plays no reserved code exactly when no step of it has one. -/
theorem unreserved_map_sounding (encoder : Encoder) (tuning : UInt8)
    (piece : List (Option Step)) :
    unreserved (piece.map (sounding encoder tuning)) =
      (piece.findSome? fun step ↦ step.bind (reservedFault? encoder tuning)).isNone := by
  rw [Bool.eq_iff_iff, unreserved_iff, Option.isNone_iff_eq_none, List.findSome?_eq_none_iff,
    List.forall_mem_map]
  refine forall_congr' fun start ↦ imp_congr_right fun _ ↦ ?_
  rw [ne_eq, code_sounding_eq_restCode_iff]
  cases start with
  | none => simp
  | some step =>
    rw [Option.bind_some, reservedFault?_eq_none_iff]
    simp [restCode]

/-- A text is refused: a block with another trimmed text has its identity. -/
def BlockStore.Refuses (store : BlockStore) (text : String) (fault : AssemblyError) : Prop :=
  ∃ block ∈ store.blocks, fault = .identityCollision block.identity ∧
    block.identity = blockIdentity (Text.trim text) ∧ block.canonical ≠ Text.trim text

/-- A text that is not stored is refused, and the store stays as it was. -/
theorem BlockStore.refuses_of_insert {store next : BlockStore} {text : String}
    {fault : AssemblyError} (h : store.insert text = (.error fault, next)) :
    next = store ∧ store.Refuses text fault := by
  refine ⟨eq_of_insert_error h, ?_⟩
  rcases store.insert_cases text with ⟨_, _, hinsert, -⟩ |
    ⟨block, hblock, hinsert, hidentity, hcanonical⟩ | ⟨_, hinsert, -⟩
  · rw [hinsert] at h
    cases h
  · rw [hinsert, ← hidentity] at h
    cases h
    exact ⟨block, hblock, rfl, hidentity, hcanonical⟩
  · rw [hinsert] at h
    cases h

/-- All that storing pieces can do: their groups are stored one after the other, up to a group with
a reserved code or up to one that is refused. -/
theorem storeGroups_cases (encoder : Encoder) (tuning : UInt8)
    (pieces : List (List (Option Step))) (store : BlockStore) {groups : List (List Slot)}
    (hgroups : pieces.map (List.map (sounding encoder tuning)) = groups) :
    match storeGroups encoder tuning pieces store with
    | (.ok _, next) =>
      (pieces.flatten.findSome? fun step ↦ step.bind (reservedFault? encoder tuning)) = none ∧
        next = afterCalls BlockStore.insert store (groups.map groupText)
    | (.error fault, next) =>
      ((pieces.flatten.findSome? fun step ↦ step.bind (reservedFault? encoder tuning)) =
          some fault ∧
        next = afterCalls BlockStore.insert store
          ((groups.takeWhile unreserved).map groupText)) ∨
      ∃ (number : Nat) (text : String), (groups.map groupText)[number]? = some text ∧
        next = afterCalls BlockStore.insert store ((groups.map groupText).take number) ∧
        next.Refuses text fault := by
  induction pieces generalizing store groups with
  | nil =>
    subst hgroups
    exact ⟨rfl, rfl⟩
  | cons piece rest ih =>
    subst hgroups
    have hunreserved := unreserved_map_sounding encoder tuning piece
    rw [storeGroups, resolveGroup_eq, List.flatten_cons, List.findSome?_append, List.map_cons]
    cases hreserved : piece.findSome? fun step ↦ step.bind (reservedFault? encoder tuning) with
    | some fault =>
      rw [hreserved, Option.isNone_some] at hunreserved
      refine Or.inl ⟨rfl, ?_⟩
      rw [List.takeWhile_cons_of_neg (by simp [hunreserved])]
      rfl
    | none =>
      rw [hreserved, Option.isNone_none] at hunreserved
      rw [Option.none_or, List.takeWhile_cons_of_pos hunreserved, List.map_cons, List.map_cons]
      generalize hslots : piece.map (sounding encoder tuning) = slots
      rcases hinsert : store.insert (groupText slots) with ⟨fault | position, next⟩
      · obtain ⟨rfl, hrefuses⟩ := BlockStore.refuses_of_insert hinsert
        simp only [hinsert]
        exact Or.inr ⟨0, groupText slots, rfl, rfl, hrefuses⟩
      · have hstep : ∀ texts : List String,
            afterCalls BlockStore.insert store (groupText slots :: texts) =
              afterCalls BlockStore.insert next texts := by
          intro texts
          rw [afterCalls, List.foldl_cons, hinsert]
          rfl
        have hrest := ih next rfl
        simp only [hinsert]
        generalize storeGroups encoder tuning rest next = outcome at hrest
        obtain ⟨result, final⟩ := outcome
        cases result with
        | ok positions =>
          rw [hstep]
          exact hrest
        | error fault =>
          rcases hrest with ⟨hfault, hfinal⟩ | ⟨number, text, htext, hfinal, hrefuses⟩
          · refine Or.inl ⟨hfault, ?_⟩
            rw [hstep]
            exact hfinal
          · refine Or.inr ⟨number + 1, text, htext, ?_, hrefuses⟩
            rw [List.take_succ_cons, hstep]
            exact hfinal

/-! ### The first step with the reserved code -/

/-- The first step with the reserved code has a number. -/
structure FirstReserved (encoder : Encoder) (tuning : UInt8) (steps : List Step) (number : Nat)
    (step : Step) : Prop where
  found : steps[number]? = some step
  code : encoder tuning step = some 255
  earlier : ∀ other < number, ∀ step, steps[other]? = some step → encoder tuning step ≠ some 255

/-- The fault that is reported is that of the first step with the reserved code. -/
theorem exists_firstReserved {encoder : Encoder} {tuning : UInt8} {steps : List Step}
    {fault : AssemblyError}
    (h : steps.findSome? (reservedFault? encoder tuning) = some fault) :
    ∃ number step, FirstReserved encoder tuning steps number step ∧
      fault = .reservedCode step.sound step.note step.octave := by
  obtain ⟨before, step, after, rfl, hfault, hbefore⟩ := List.findSome?_eq_some_iff.mp h
  have hcode : encoder tuning step = some restCode := by
    by_cases hcode : encoder tuning step = some restCode
    · exact hcode
    · rw [reservedFault?, if_neg hcode] at hfault
      cases hfault
  rw [reservedFault?, if_pos hcode] at hfault
  refine ⟨before.length, step, ⟨by simp, hcode, ?_⟩, (Option.some.inj hfault).symm⟩
  intro other hother earlier hearlier
  rw [List.getElem?_append_left hother] at hearlier
  exact reservedFault?_eq_none_iff.mp (hbefore earlier (List.mem_of_getElem? hearlier))

/-- A group of a channel plays no reserved code exactly when no step with this code starts in its
eight slots. -/
theorem unreserved_channelGroups_iff {encoder : Encoder} {tuning steps : UInt8}
    {channel : Channel} {number : Nat}
    (h : number < (channelGroups encoder tuning steps channel).length) :
    unreserved (channelGroups encoder tuning steps channel)[number] = true ↔
      ∀ place < 8, ∀ step,
        stepAt (slotsPerPattern / steps.toNat) channel.steps (8 * number + place) = some step →
          encoder tuning step ≠ some restCode := by
  simp only [channelGroups, List.getElem_map, List.getElem_range]
  rw [unreserved_iff, List.forall_mem_map]
  refine forall_congr' fun place ↦ ?_
  rw [List.mem_range, slotAt, ne_eq, code_sounding_eq_restCode_iff]
  refine imp_congr_right fun _ ↦ ?_
  simp only [slotsPerGroup, not_exists, not_and, ne_eq]

/-- The groups before the first with a reserved code are those before the slot of the first step
with this code: that slot lies in the group, and a step that starts in an earlier group has a
smaller number. -/
theorem takeWhile_channelGroups {encoder : Encoder} {tuning steps : UInt8} {channel : Channel}
    (hsteps : 0 < steps.toNat ∧ steps.toNat ∣ slotsPerPattern)
    (hlength : channel.steps.length = steps.toNat) {number : Nat} {step : Step}
    (h : FirstReserved encoder tuning channel.steps number step) :
    (channelGroups encoder tuning steps channel).takeWhile unreserved =
      (channelGroups encoder tuning steps channel).take
        (number * (slotsPerPattern / steps.toNat) / 8) := by
  have hpos : 0 < slotsPerPattern / steps.toNat :=
    Nat.div_pos (Nat.le_of_dvd (by decide) hsteps.2) hsteps.1
  have hnumber : number < steps.toNat :=
    hlength ▸ (List.getElem?_eq_some_iff.mp h.found).1
  have hslots : steps.toNat * (slotsPerPattern / steps.toNat) = 32 := Nat.mul_div_cancel' hsteps.2
  generalize hincrement : slotsPerPattern / steps.toNat = increment at hpos hslots ⊢
  have hslot : number * increment < 32 :=
    Nat.lt_of_lt_of_eq (Nat.mul_lt_mul_of_pos_right hnumber hpos) hslots
  have hgroup : number * increment / 8 < (channelGroups encoder tuning steps channel).length := by
    rw [length_channelGroups]
    exact Nat.div_lt_of_lt_mul hslot
  rw [List.takeWhile_eq_take_findIdx_not]
  refine congrArg (List.take · _) ((List.findIdx_eq hgroup).mpr ⟨?_, ?_⟩)
  · rw [Bool.not_eq_true', ← Bool.not_eq_true, unreserved_channelGroups_iff, hincrement]
    intro hclean
    have hplace := Nat.mod_lt (number * increment) (by decide : 0 < 8)
    refine hclean (number * increment % 8) hplace step ?_ h.code
    rw [Nat.div_add_mod, stepAt, if_pos (Nat.mul_mod_left number increment),
      Nat.mul_div_cancel number hpos]
    exact h.found
  · intro other hother
    rw [Bool.not_eq_false', unreserved_channelGroups_iff, hincrement]
    intro place hplace earlier hearlier
    by_cases hstart : (8 * other + place) % increment = 0
    · rw [stepAt, if_pos hstart] at hearlier
      refine h.earlier _ ?_ earlier hearlier
      rw [Nat.div_lt_iff_lt_mul hpos]
      omega
    · rw [stepAt, if_neg hstart] at hearlier
      cases hearlier

/-! ### What is left behind -/

/-- The store that compiling a channel leaves behind, with what it returns: the store as it was if
the steps do not fill the pattern; the store with the groups before the first step that has the
reserved code, which is reported; the store with all groups if no step has it. Otherwise the text of
a group has the identity of another text, and the groups before it are stored. -/
def Leaves (encoder : Encoder) (tuning steps : UInt8) (channel : Channel) (store : BlockStore) :
    Except AssemblyError Voice × BlockStore → Prop
  | (.error (.invalidStepCount count), next) =>
    count = steps ∧ ¬ (0 < steps.toNat ∧ steps.toNat ∣ 32) ∧ next = store
  | (.error (.stepCountMismatch expected found), next) =>
    (0 < steps.toNat ∧ steps.toNat ∣ 32) ∧ expected = steps.toNat ∧
      found = channel.steps.length ∧ found ≠ expected ∧ next = store
  | (.error (.reservedCode sound note octave), next) =>
    (0 < steps.toNat ∧ steps.toNat ∣ 32) ∧ channel.steps.length = steps.toNat ∧
      ∃ number step, FirstReserved encoder tuning channel.steps number step ∧
        sound = step.sound ∧ note = step.note ∧ octave = step.octave ∧
        next = afterCalls BlockStore.insert store
          ((channelTexts encoder tuning steps channel).take (number * (32 / steps.toNat) / 8))
  | (.error (.identityCollision identity), next) =>
    (0 < steps.toNat ∧ steps.toNat ∣ 32) ∧ channel.steps.length = steps.toNat ∧
      ∃ (number : Nat) (text : String),
        (channelTexts encoder tuning steps channel)[number]? = some text ∧
        next = afterCalls BlockStore.insert store
          ((channelTexts encoder tuning steps channel).take number) ∧
        ∃ block ∈ next.blocks, block.canonical ≠ Text.trim text ∧
          blockIdentity block.canonical = identity ∧ blockIdentity (Text.trim text) = identity
  | (.error _, _) => False
  | (.ok _, next) =>
    (0 < steps.toNat ∧ steps.toNat ∣ 32) ∧ channel.steps.length = steps.toNat ∧
      (∀ step ∈ channel.steps, encoder tuning step ≠ some 255) ∧
      next = afterCalls BlockStore.insert store (channelTexts encoder tuning steps channel)

/-- The identities of the blocks are those of their texts. -/
def BlockStore.Identified (store : BlockStore) : Prop :=
  ∀ block ∈ store.blocks, block.identity = blockIdentity block.canonical

/-- A stored text is identified by its own identity. -/
theorem BlockStore.Identified.insert {store : BlockStore} (h : store.Identified) (text : String) :
    (store.insert text).2.Identified := by
  rcases store.insert_cases text with ⟨_, _, hinsert, -⟩ | ⟨_, -, hinsert, -⟩ |
    ⟨next, hinsert, hblocks, -⟩
  · rwa [hinsert]
  · rwa [hinsert]
  · rw [hinsert]
    intro block hblock
    rw [hblocks] at hblock
    rcases List.mem_append.mp hblock with hbefore | hlast
    · exact h block hbefore
    · rw [List.mem_singleton.mp hlast]
      rfl

theorem BlockStore.Identified.afterCalls {store : BlockStore} (h : store.Identified)
    (texts : List String) : (afterCalls BlockStore.insert store texts).Identified :=
  afterCalls_invariant (motive := fun (next : BlockStore) _ ↦ next.Identified)
    (fun hbefore text ↦ hbefore.insert text) h texts

theorem BlockStore.Identified.storeGroups {store : BlockStore} (h : store.Identified)
    (encoder : Encoder) (tuning : UInt8) (pieces : List (List (Option Step))) :
    (storeGroups encoder tuning pieces store).2.Identified := by
  have hcases := storeGroups_cases encoder tuning pieces store rfl
  generalize StepSequencer.storeGroups encoder tuning pieces store = outcome at hcases
  obtain ⟨result, next⟩ := outcome
  cases result with
  | ok positions => exact hcases.2 ▸ h.afterCalls _
  | error fault =>
    rcases hcases with ⟨-, hnext⟩ | ⟨_, _, _, hnext, _⟩
    · exact hnext ▸ h.afterCalls _
    · exact hnext ▸ h.afterCalls _

/-- Compiling a channel keeps the identities those of the texts, also where it fails. -/
theorem BlockStore.Identified.compileChannel {store : BlockStore} (h : store.Identified)
    (encoder : Encoder) (tuning steps : UInt8) (channel : Channel) :
    (compileChannel encoder tuning steps channel store).2.Identified := by
  unfold StepSequencer.compileChannel
  split
  · exact h
  · rename_i increment _
    split
    · exact h
    · have hgroups := h.storeGroups encoder tuning
        (cut slotsPerGroup (spread increment channel.steps))
      split
      · rename_i heq
        rwa [heq] at hgroups
      · rename_i heq
        rwa [heq] at hgroups

/-- Compiling a channel into a store in which identities are those of the texts. -/
theorem leaves_compileChannel (encoder : Encoder) (tuning steps : UInt8) (channel : Channel)
    {store : BlockStore} (hstore : store.Identified) :
    Leaves encoder tuning steps channel store
      (compileChannel encoder tuning steps channel store) := by
  rw [compileChannel]
  cases hincrement : slotIncrement steps with
  | none =>
    refine ⟨rfl, ?_, rfl⟩
    rintro ⟨hpos, hdvd⟩
    rw [slotIncrement_eq_some_iff.mpr ⟨hpos, hdvd, rfl⟩] at hincrement
    cases hincrement
  | some increment =>
    obtain ⟨hpos, hdvd, -⟩ := slotIncrement_eq_some_iff.mp hincrement
    by_cases hlength : channel.steps.length = steps.toNat
    · have hcases := storeGroups_cases encoder tuning
        (cut slotsPerGroup (spread increment channel.steps)) store
        (map_sounding_cut_spread encoder tuning hincrement hlength)
      rw [flatten_cut (by decide), findSome?_spread, map_groupText_channelGroups] at hcases
      simp only [hlength, ne_eq, not_true_eq_false, ↓reduceIte]
      generalize storeGroups encoder tuning
        (cut slotsPerGroup (spread increment channel.steps)) store = outcome at hcases
      obtain ⟨result, next⟩ := outcome
      cases result with
      | ok positions =>
        obtain ⟨hnone, hnext⟩ := hcases
        refine ⟨⟨hpos, hdvd⟩, hlength, fun step hstep ↦ ?_, hnext⟩
        exact reservedFault?_eq_none_iff.mp (List.findSome?_eq_none_iff.mp hnone step hstep)
      | error fault =>
        rcases hcases with ⟨hfault, hnext⟩ | ⟨number, text, htext, hnext, hrefuses⟩
        · obtain ⟨number, step, hfirst, rfl⟩ := exists_firstReserved hfault
          rw [takeWhile_channelGroups ⟨hpos, hdvd⟩ hlength hfirst, List.map_take,
            map_groupText_channelGroups] at hnext
          exact ⟨⟨hpos, hdvd⟩, hlength, number, step, hfirst, rfl, rfl, rfl, hnext⟩
        · obtain ⟨block, hblock, rfl, hidentity, hcanonical⟩ := hrefuses
          have hown : next.Identified := hnext ▸ hstore.afterCalls _
          exact ⟨⟨hpos, hdvd⟩, hlength, number, text, htext, hnext, block, hblock, hcanonical,
            (hown block hblock).symm, hidentity.symm⟩
    · simp only [ne_eq, hlength, not_false_eq_true, ↓reduceIte]
      exact ⟨⟨hpos, hdvd⟩, rfl, rfl, hlength, rfl⟩

namespace Session

/-- Every call of a session keeps the identities those of the texts. -/
theorem identified_step {session : Session} (h : session.store.Identified) (call : SessionCall) :
    (session.step call).store.Identified := by
  cases call with
  | insert text => exact h.insert text
  | compile request =>
    have hcompiled := h.compileChannel request.encoder request.tuning request.steps request.channel
    rw [step, Request.compile]
    split
    · rename_i heq
      rwa [heq] at hcompiled
    · rename_i heq
      rwa [heq] at hcompiled
  | add channel number =>
    rw [step]
    split
    · exact h
    · split
      · exact h
      · exact h

/-- In every session the identities of the blocks are those of their texts. -/
theorem identified_run (calls : List SessionCall) : (run calls).store.Identified :=
  List.foldlRecOn (motive := fun session ↦ session.store.Identified) calls step
    (by simp [BlockStore.Identified]) fun _ h call _ ↦ identified_step h call

/-- Whatever was stored and compiled before, a channel that is not compiled leaves behind the groups
before its first step with the reserved code and nothing else, or nothing at all; and every position
given out before leads to the same block. -/
theorem compileChannel_leaves (calls : List SessionCall) (encoder : Encoder)
    (tuning steps : UInt8) (channel : Channel) :
    Leaves encoder tuning steps channel (run calls).store
      (compileChannel encoder tuning steps channel (run calls).store) ∧
    ∀ position block, (run calls).store.get? position = some block →
      (compileChannel encoder tuning steps channel (run calls).store).2.get? position =
        some block :=
  ⟨leaves_compileChannel encoder tuning steps channel (identified_run calls),
    fun _ _ hblock ↦ BlockStore.get?_mono (prefix_compileChannel ..) hblock⟩

end Session

end StepSequencer
