import StepSequencer.Proofs.Assembly.Slots

/-!
# The faults of a song

`songFaults` lists everything that is wrong with a list of patterns, in the order in which a
traversal meets it: the number of channels of a pattern before anything else in it, then channel
by channel the number of steps of the pattern, the number of steps of the channel, the steps with
the reserved code, and last the table in which there is no room. The room in a table depends on
the channels before, which the traversal carries along.

`songFaults_eq_nil_iff` says without a traversal when there is no fault, `Playable`: a condition
on each pattern, and one bound for each table on the channels of the whole song.
-/

set_option autoImplicit false
set_option relaxedAutoImplicit false

namespace StepSequencer

/-- The table a channel belongs to. -/
def Channel.kind (channel : Channel) : TableKind :=
  TableKind.ofAttenuation channel.attenuate

/-- The number of channels that belong to a table. -/
def channelCount (kind : TableKind) (channels : List Channel) : Nat :=
  channels.countP fun channel ↦ channel.kind = kind

/-- The channels of some patterns, in the order of the song. -/
def songChannels (patterns : List Pattern) : List Channel :=
  patterns.flatMap Pattern.channels

/-! ### Faults in the order of a traversal -/

/-- What is wrong with a channel by itself, in a pattern with a number of steps. -/
def ownFaults (encoder : Encoder) (tuning steps : UInt8) (channel : Channel) :
    List AssemblyError :=
  (if 0 < steps.toNat ∧ steps.toNat ∣ slotsPerPattern then [] else [.invalidStepCount steps]) ++
    (if channel.steps.length = steps.toNat then []
      else [.stepCountMismatch steps.toNat channel.steps.length]) ++
    channel.steps.filterMap (reservedFault? encoder tuning)

/-- The table of a channel that has no room for it behind the channels before. -/
def tableFaults (before : List Channel) (channel : Channel) : List AssemblyError :=
  if channel.kind.capacity ≤ channelCount channel.kind before then [.tableFull channel.kind]
  else []

/-- What is wrong with the channels of a pattern. -/
def channelFaults (encoder : Encoder) (tuning steps : UInt8) :
    (before channels : List Channel) → List AssemblyError
  | _, [] => []
  | before, channel :: rest =>
    ownFaults encoder tuning steps channel ++ tableFaults before channel ++
      channelFaults encoder tuning steps (before ++ [channel]) rest

/-- What is wrong with patterns from a position on, behind some channels. -/
def faultsFrom (encoder : Encoder) (tuning : UInt8) :
    (position : Nat) → (before : List Channel) → List Pattern → List AssemblyError
  | _, _, [] => []
  | position, before, pattern :: rest =>
    (if pattern.channels.length = channelsPerPattern then []
      else [.wrongChannelCount position pattern.channels.length]) ++
      channelFaults encoder tuning pattern.steps before pattern.channels ++
      faultsFrom encoder tuning (position + 1) (before ++ pattern.channels) rest

/-- What is wrong with the patterns of a song. -/
def songFaults (encoder : Encoder) (tuning : UInt8) (patterns : List Pattern) :
    List AssemblyError :=
  faultsFrom encoder tuning 0 [] patterns

/-! ### Room in the tables -/

/-- There is room for all channels in their tables. -/
def Fits (channels : List Channel) : Prop :=
  ∀ kind, channelCount kind channels ≤ kind.capacity

theorem fits_nil : Fits [] :=
  fun _ ↦ Nat.zero_le _

/-- Where some channels fit, so do those at their start. -/
theorem Fits.left {before after : List Channel} (h : Fits (before ++ after)) : Fits before := by
  intro kind
  have hboth := h kind
  rw [channelCount, List.countP_append] at hboth
  exact Nat.le_of_add_right_le hboth

/-- Where there was room before, there is room for one more channel unless its table is full. -/
theorem tableFaults_eq_nil_iff {before : List Channel} (hbefore : Fits before)
    (channel : Channel) : tableFaults before channel = [] ↔ Fits (before ++ [channel]) := by
  have hcount : ∀ kind, channelCount kind (before ++ [channel]) =
      channelCount kind before + if channel.kind = kind then 1 else 0 := by
    intro kind
    simp [channelCount, List.countP_append, List.countP_cons]
  rw [tableFaults]
  constructor
  · intro hnone kind
    have hroom : ¬ channel.kind.capacity ≤ channelCount channel.kind before := by
      intro hfull
      simp [hfull] at hnone
    rw [hcount]
    by_cases hkind : channel.kind = kind
    · subst hkind
      rw [if_pos rfl]
      omega
    · rw [if_neg hkind]
      exact hbefore kind
  · intro hfits
    have hroom := hfits channel.kind
    rw [hcount, if_pos rfl] at hroom
    rw [if_neg (by omega)]

/-! ### Songs without faults -/

/-- A channel is free of faults of its own if its steps fill the pattern and none has the reserved
code. -/
theorem ownFaults_eq_nil_iff {encoder : Encoder} {tuning steps : UInt8} {channel : Channel} :
    ownFaults encoder tuning steps channel = [] ↔
      (0 < steps.toNat ∧ steps.toNat ∣ slotsPerPattern) ∧
        channel.steps.length = steps.toNat ∧
          ∀ step ∈ channel.steps, encoder tuning step ≠ some restCode := by
  have hreserved : ∀ step, reservedFault? encoder tuning step = none ↔
      encoder tuning step ≠ some restCode := by
    intro step
    rw [reservedFault?]
    split <;> simp_all
  rw [ownFaults, List.append_eq_nil_iff, List.append_eq_nil_iff, List.filterMap_eq_nil_iff,
    and_assoc]
  simp only [hreserved]
  refine and_congr ?_ (and_congr ?_ Iff.rfl)
  · split <;> simp_all
  · split <;> simp_all

/-- The channels of a pattern are free of faults if each of them is, and all fit behind those
before. -/
theorem channelFaults_eq_nil_iff {encoder : Encoder} {tuning steps : UInt8}
    {before channels : List Channel} (hbefore : Fits before) :
    channelFaults encoder tuning steps before channels = [] ↔
      (∀ channel ∈ channels, ownFaults encoder tuning steps channel = []) ∧
        Fits (before ++ channels) := by
  induction channels generalizing before with
  | nil => simpa [channelFaults] using hbefore
  | cons channel rest ih =>
    have happend : before ++ channel :: rest = before ++ [channel] ++ rest := by simp
    rw [channelFaults, List.append_eq_nil_iff, List.append_eq_nil_iff,
      tableFaults_eq_nil_iff hbefore, happend, List.forall_mem_cons]
    constructor
    · rintro ⟨⟨hown, hfits⟩, hrest⟩
      obtain ⟨hothers, hall⟩ := (ih hfits).mp hrest
      exact ⟨⟨hown, hothers⟩, hall⟩
    · rintro ⟨⟨hown, hothers⟩, hall⟩
      exact ⟨⟨hown, hall.left⟩, (ih hall.left).mpr ⟨hothers, hall⟩⟩

/-- Patterns are free of faults if each has two channels without faults, and all channels fit behind
those before. -/
theorem faultsFrom_eq_nil_iff {encoder : Encoder} {tuning : UInt8} {position : Nat}
    {before : List Channel} {patterns : List Pattern} (hbefore : Fits before) :
    faultsFrom encoder tuning position before patterns = [] ↔
      (∀ pattern ∈ patterns, pattern.channels.length = channelsPerPattern ∧
        ∀ channel ∈ pattern.channels, ownFaults encoder tuning pattern.steps channel = []) ∧
        Fits (before ++ songChannels patterns) := by
  induction patterns generalizing position before with
  | nil => simpa [faultsFrom, songChannels] using hbefore
  | cons pattern rest ih =>
    have happend : before ++ songChannels (pattern :: rest) =
        before ++ pattern.channels ++ songChannels rest := by
      simp [songChannels]
    have hlength : (if pattern.channels.length = channelsPerPattern then []
        else [AssemblyError.wrongChannelCount position pattern.channels.length]) = [] ↔
        pattern.channels.length = channelsPerPattern := by
      split <;> simp_all
    rw [faultsFrom, List.append_eq_nil_iff, List.append_eq_nil_iff, hlength,
      channelFaults_eq_nil_iff hbefore, happend, List.forall_mem_cons]
    constructor
    · rintro ⟨⟨hcount, hown, hfits⟩, hrest⟩
      obtain ⟨hothers, hall⟩ := (ih hfits).mp hrest
      exact ⟨⟨⟨hcount, hown⟩, hothers⟩, hall⟩
    · rintro ⟨⟨⟨hcount, hown⟩, hothers⟩, hall⟩
      exact ⟨⟨hcount, hown, hall.left⟩, (ih hall.left).mpr ⟨hothers, hall⟩⟩

/-- A song that can be played: two channels a pattern, steps that fill the pattern evenly and are
all there, no step with the code reserved for rests, and room in both tables. -/
structure Playable (encoder : Encoder) (tuning : UInt8) (patterns : List Pattern) : Prop where
  channels : ∀ pattern ∈ patterns, pattern.channels.length = 2
  steps : ∀ pattern ∈ patterns, 0 < pattern.steps.toNat ∧ pattern.steps.toNat ∣ 32
  lengths : ∀ pattern ∈ patterns, ∀ channel ∈ pattern.channels,
    channel.steps.length = pattern.steps.toNat
  codes : ∀ pattern ∈ patterns, ∀ channel ∈ pattern.channels, ∀ step ∈ channel.steps,
    encoder tuning step ≠ some 255
  high : (songChannels patterns).countP (fun channel ↦ !channel.attenuate) ≤ 128
  low : (songChannels patterns).countP (fun channel ↦ channel.attenuate) ≤ 127

/-- Channels fit if at most 128 of them go to the high table and at most 127 to the low one. -/
theorem fits_iff {channels : List Channel} :
    Fits channels ↔ channels.countP (fun channel ↦ !channel.attenuate) ≤ 128 ∧
      channels.countP (fun channel ↦ channel.attenuate) ≤ 127 := by
  have hhigh : channelCount .high channels =
      channels.countP fun channel ↦ !channel.attenuate := by
    refine List.countP_congr fun channel _ ↦ ?_
    cases hattenuate : channel.attenuate <;>
      simp [Channel.kind, TableKind.ofAttenuation, hattenuate]
  have hlow : channelCount .low channels = channels.countP fun channel ↦ channel.attenuate := by
    refine List.countP_congr fun channel _ ↦ ?_
    cases hattenuate : channel.attenuate <;>
      simp [Channel.kind, TableKind.ofAttenuation, hattenuate]
  rw [← hhigh, ← hlow]
  constructor
  · intro hfits
    exact ⟨hfits .high, hfits .low⟩
  · rintro ⟨hfirst, hsecond⟩ kind
    cases kind with
    | high => exact hfirst
    | low => exact hsecond

/-- A song has no faults exactly when it can be played. The number of steps is checked with every
channel, of which a pattern has two. -/
theorem songFaults_eq_nil_iff {encoder : Encoder} {tuning : UInt8} {patterns : List Pattern} :
    songFaults encoder tuning patterns = [] ↔ Playable encoder tuning patterns := by
  rw [songFaults, faultsFrom_eq_nil_iff fits_nil, List.nil_append, fits_iff]
  simp only [ownFaults_eq_nil_iff]
  constructor
  · rintro ⟨hpatterns, hhigh, hlow⟩
    refine ⟨fun pattern hpattern ↦ (hpatterns pattern hpattern).1, fun pattern hpattern ↦ ?_,
      fun pattern hpattern channel hchannel ↦ ((hpatterns pattern hpattern).2 channel hchannel).2.1,
      fun pattern hpattern channel hchannel ↦ ((hpatterns pattern hpattern).2 channel hchannel).2.2,
      hhigh, hlow⟩
    obtain ⟨hlength, hchannels⟩ := hpatterns pattern hpattern
    have hne : pattern.channels ≠ [] := by
      intro hnil
      rw [hnil] at hlength
      exact absurd hlength (by decide)
    obtain ⟨channel, hchannel⟩ := List.exists_mem_of_ne_nil _ hne
    exact (hchannels channel hchannel).1
  · intro h
    exact ⟨fun pattern hpattern ↦ ⟨h.channels pattern hpattern, fun channel hchannel ↦
      ⟨h.steps pattern hpattern, h.lengths pattern hpattern channel hchannel,
        h.codes pattern hpattern channel hchannel⟩⟩, h.high, h.low⟩

end StepSequencer
