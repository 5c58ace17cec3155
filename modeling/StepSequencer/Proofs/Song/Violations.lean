import StepSequencer.Proofs.Song.PathTexts
import StepSequencer.Song.Validation

/-!
# The report about a song is exact

A `Violation` is a rule together with the place where it is broken, and `Song.Violates` says, one
rule at a time, when a song breaks it there. The report lists every violation of the song once, in
the order of `Violation.Precedes`, and nothing else.

`Lists` says this of a part of the report: some errors stand for exactly the violations with a
property, in order. It is carried from a step to its channel, its pattern and the song
(`Lists.append`, `Lists.flatMap`). Different violations have different paths, so the errors of a
report are told apart by code and path.
-/

set_option autoImplicit false
set_option relaxedAutoImplicit false

namespace StepSequencer

open SchemaError (renderPath)

/-! ### Rules -/

/-- The letters of notes. -/
def noteLetters : List Char :=
  ['A', 'B', 'C', 'D', 'E', 'F', 'G']

/-- The letter of a note stands alone or with a sharp or a flat. -/
def IsNote (name : String) : Prop :=
  ∃ letter ∈ noteLetters,
    name.toList = [letter] ∨ name.toList = [letter, '#'] ∨ name.toList = [letter, 'b']

/-- A rule and the place where it is broken. Places are counted from zero. -/
inductive Violation where
  | stepCount (pattern : Nat)
  | channelCount (pattern : Nat)
  | channelLength (pattern channel : Nat)
  | note (pattern channel step : Nat)
  | hatLength
  | hatEntry (position : Nat)
  | hatVolume
  | hatPitch
deriving DecidableEq, Repr

namespace Violation

/-- The code of the rule. -/
def code : Violation → String
  | stepCount _ => "E001"
  | channelCount _ => "E002"
  | channelLength _ _ => "E003"
  | note _ _ _ => "E004"
  | hatLength => "E010"
  | hatEntry _ => "E011"
  | hatVolume => "E012"
  | hatPitch => "E013"

/-- The way to the field that breaks the rule. -/
def path : Violation → List PathStep
  | stepCount i => [.key "patterns", .index i, .key "steps"]
  | channelCount i => [.key "patterns", .index i, .key "channels"]
  | channelLength i j => [.key "patterns", .index i, .key "channels", .index j, .key "steps"]
  | note i j k =>
    [.key "patterns", .index i, .key "channels", .index j, .key "steps", .index k, .key "note"]
  | hatLength => [.key "hats", .key "pattern"]
  | hatEntry n => [.key "hats", .key "pattern", .index n]
  | hatVolume => [.key "hats", .key "volume"]
  | hatPitch => [.key "hats", .key "pitch"]

/-- The place in a report. Patterns come before the hats; in a pattern the number of steps, the
number of channels, and then every channel with its length before its notes. -/
def rank : Violation → List Nat
  | stepCount i => [0, i, 0]
  | channelCount i => [0, i, 1]
  | channelLength i j => [0, i, 2, j, 0]
  | note i j k => [0, i, 2, j, 1, k]
  | hatLength => [1, 0]
  | hatEntry n => [1, 1, n]
  | hatVolume => [1, 2]
  | hatPitch => [1, 3]

/-- The violation comes before the other in a report. -/
def Precedes (violation other : Violation) : Prop :=
  List.Lex (fun a b ↦ a < b) violation.rank other.rank

/-- The code and the path under which the violation is reported. -/
def heading (violation : Violation) : String × Option String :=
  (violation.code, some (renderPath violation.path))

theorem not_precedes_self (violation : Violation) : ¬violation.Precedes violation :=
  List.lex_irrefl Nat.lt_irrefl violation.rank

/-- Of two ranks that part after some common numbers, the one with the smaller number comes
first. -/
theorem precedes_of_rank (common : List Nat) {violation other : Violation} {a b : Nat}
    {rest more : List Nat} (h : a < b) (hrank : violation.rank = common ++ a :: rest)
    (hother : other.rank = common ++ b :: more) : violation.Precedes other := by
  rw [Precedes, hrank, hother]
  clear hrank hother
  induction common with
  | nil => exact List.Lex.rel h
  | cons n common ih => exact List.Lex.cons ih

/-- Violations are told apart by their places. -/
theorem path_injective {violation other : Violation} (h : violation.path = other.path) :
    violation = other := by
  cases violation <;> cases other <;> simp_all [path]

theorem isPlain_of_mem_path {violation : Violation} :
    ∀ step ∈ violation.path, step.IsPlain := by
  cases violation <;> simp [path, PathStep.IsPlain, endsKey]

theorem exists_path_eq_cons (violation : Violation) :
    ∃ name rest, violation.path = .key name :: rest := by
  cases violation <;> exact ⟨_, _, rfl⟩

/-- Violations are told apart by their code and place as they are reported. -/
theorem heading_injective {violation other : Violation} (h : violation.heading = other.heading) :
    violation = other := by
  have hpath : renderPath violation.path = renderPath other.path :=
    Option.some.inj (congrArg Prod.snd h)
  have hplain : ∀ step ∈ violation.path, step.IsPlain := isPlain_of_mem_path
  have hother : ∀ step ∈ other.path, step.IsPlain := isPlain_of_mem_path
  refine path_injective ?_
  obtain ⟨name, rest, hcons⟩ := violation.exists_path_eq_cons
  obtain ⟨otherName, more, hmore⟩ := other.exists_path_eq_cons
  rw [hcons] at hpath hplain ⊢
  rw [hmore] at hpath hother ⊢
  exact SchemaError.renderPath_injective hplain hother hpath

end Violation

/-- The song breaks a rule at a place. -/
def Song.Violates (song : Song) : Violation → Prop
  | .stepCount i => ∃ pattern, song.patterns[i]? = some pattern ∧
      (pattern.steps = 0 ∨ ¬pattern.steps.toNat ∣ 32)
  | .channelCount i => ∃ pattern, song.patterns[i]? = some pattern ∧ pattern.channels.length ≠ 2
  | .channelLength i j => ∃ pattern channel, song.patterns[i]? = some pattern ∧
      pattern.channels[j]? = some channel ∧ channel.steps.length ≠ pattern.steps.toNat
  | .note i j k => ∃ pattern channel step name, song.patterns[i]? = some pattern ∧
      pattern.channels[j]? = some channel ∧ channel.steps[k]? = some step ∧
        step.note = some name ∧ ¬IsNote name
  | .hatLength => song.hats.pattern.length ≠ 32
  | .hatEntry n => ∃ value, song.hats.pattern[n]? = some value ∧ 1 < value.toNat
  | .hatVolume => 15 < song.hats.volume.toNat
  | .hatPitch => 31 < song.hats.pitch.toNat

/-- The code and the path of a finding. -/
def Finding.heading {κ : Type} (codeText : κ → String) (finding : Finding κ) :
    String × Option String :=
  (codeText finding.code, finding.path)

theorem mem_noteLetters_iff {letter : Char} :
    letter ∈ noteLetters ↔ 'A' ≤ letter ∧ letter ≤ 'G' := by
  have hcodes : noteLetters.map Char.toNat = [65, 66, 67, 68, 69, 70, 71] := rfl
  have hmem : letter ∈ noteLetters ↔ letter.toNat ∈ noteLetters.map Char.toNat := by
    rw [List.mem_map]
    refine ⟨fun h ↦ ⟨letter, h, rfl⟩, ?_⟩
    rintro ⟨other, hother, hsame⟩
    rwa [← Char.toNat_inj.mp hsame]
  have hbounds : 'A' ≤ letter ∧ letter ≤ 'G' ↔ 65 ≤ letter.toNat ∧ letter.toNat ≤ 71 := Iff.rfl
  rw [hmem, hcodes, hbounds]
  simp only [List.mem_cons, List.not_mem_nil, or_false]
  omega

/-- A name is accepted exactly if it is a note. -/
theorem isNoteName_eq_true_iff (name : String) : isNoteName name = true ↔ IsNote name := by
  unfold isNoteName IsNote
  split
  · rename_i letter hname
    rw [Bool.and_eq_true, decide_eq_true_eq, decide_eq_true_eq, ← mem_noteLetters_iff]
    simp [hname]
  · rename_i letter sign hname
    rw [Bool.and_eq_true, Bool.and_eq_true, decide_eq_true_eq, decide_eq_true_eq,
      ← mem_noteLetters_iff, Bool.or_eq_true, decide_eq_true_eq, decide_eq_true_eq]
    simp only [hname, List.cons.injEq, and_true, reduceCtorEq, and_false, false_or]
    constructor
    · rintro ⟨hletter, rfl | rfl⟩
      · exact ⟨letter, hletter, Or.inl ⟨rfl, rfl⟩⟩
      · exact ⟨letter, hletter, Or.inr ⟨rfl, rfl⟩⟩
    · rintro ⟨other, hother, ⟨rfl, rfl⟩ | ⟨rfl, rfl⟩⟩
      · exact ⟨hother, Or.inl rfl⟩
      · exact ⟨hother, Or.inr rfl⟩
  · rename_i hone htwo
    refine iff_of_false Bool.false_ne_true ?_
    rintro ⟨letter, -, hname | hname | hname⟩
    · exact hone letter hname
    · exact htwo letter '#' hname
    · exact htwo letter 'b' hname

/-! ### Lists of errors -/

/-- The errors stand for exactly the violations with a property, each one once and in order. -/
def Lists (faults : List SongFault) (property : Violation → Prop) : Prop :=
  ∃ violations : List Violation,
    faults.map (Finding.heading ErrorCode.text) = violations.map Violation.heading ∧
      (∀ violation, violation ∈ violations ↔ property violation) ∧
        violations.Pairwise Violation.Precedes

theorem lists_nil : Lists [] fun _ ↦ False :=
  ⟨[], rfl, by simp, List.Pairwise.nil⟩

theorem Lists.congr {faults : List SongFault} {property other : Violation → Prop}
    (h : Lists faults property) (hiff : ∀ violation, property violation ↔ other violation) :
    Lists faults other := by
  obtain ⟨violations, hsame, hmem, horder⟩ := h
  exact ⟨violations, hsame, fun violation ↦ (hmem violation).trans (hiff violation), horder⟩

/-- A check lists one violation, if its condition holds. -/
theorem lists_faultIf (violation : Violation) {condition : Bool} {code : ErrorCode}
    {message path : String} {property : Prop} (hcode : violation.code = code.text)
    (hpath : (renderPath violation.path).toList = path.toList)
    (hcondition : condition = true ↔ property) :
    Lists (faultIf condition code message path) fun other ↦ other = violation ∧ property := by
  have hheading : violation.heading = (code.text, some path) := by
    rw [Violation.heading, hcode, String.toList_inj.mp hpath]
  cases condition with
  | false => exact ⟨[], rfl, by simp [← hcondition], List.Pairwise.nil⟩
  | true =>
    refine ⟨[violation], ?_, by simp [← hcondition], List.pairwise_singleton _ _⟩
    simp [faultIf, Finding.heading, hheading]

/-- Lists in a row are in order if all violations of the first precede those of the second. -/
theorem Lists.append {first second : List SongFault} {property other : Violation → Prop}
    (hfirst : Lists first property) (hsecond : Lists second other)
    (horder : ∀ v w, property v → other w → v.Precedes w) :
    Lists (first ++ second) fun violation ↦ property violation ∨ other violation := by
  obtain ⟨early, hearly, hmem, hsorted⟩ := hfirst
  obtain ⟨late, hlate, hmemLate, hsortedLate⟩ := hsecond
  refine ⟨early ++ late, by rw [List.map_append, List.map_append, hearly, hlate], ?_, ?_⟩
  · intro violation
    rw [List.mem_append, hmem, hmemLate]
  · rw [List.pairwise_append]
    refine ⟨hsorted, hsortedLate, fun v hv w hw ↦ ?_⟩
    exact horder v w ((hmem v).mp hv) ((hmemLate w).mp hw)

/-- A violation is reported exactly if it has the property. -/
theorem Lists.mem_heading_iff {faults : List SongFault} {property : Violation → Prop}
    (h : Lists faults property) {violation : Violation} :
    violation.heading ∈ faults.map (Finding.heading ErrorCode.text) ↔ property violation := by
  obtain ⟨violations, hsame, hmem, -⟩ := h
  rw [hsame, ← hmem, List.mem_map]
  refine ⟨?_, fun hviolation ↦ ⟨violation, hviolation, rfl⟩⟩
  rintro ⟨other, hother, hheading⟩
  rwa [← Violation.heading_injective hheading]

/-- Errors that stand for violations in order have different codes or paths. -/
theorem Lists.nodup {faults : List SongFault} {property : Violation → Prop}
    (h : Lists faults property) : (faults.map (Finding.heading ErrorCode.text)).Nodup := by
  obtain ⟨violations, hsame, -, horder⟩ := h
  rw [hsame]
  refine horder.map Violation.heading fun v w hprecedes heq ↦ ?_
  rw [Violation.heading_injective heq] at hprecedes
  exact w.not_precedes_self hprecedes

/-- The errors of items in a row, if the violations of an item precede those of later items. -/
theorem Lists.flatMap {β : Type} {items : List β} {faults : β → List SongFault}
    {property : β → Violation → Prop} (hlists : ∀ item ∈ items, Lists (faults item) (property item))
    (horder : items.Pairwise fun item later ↦
      ∀ v w, property item v → property later w → v.Precedes w) :
    Lists (items.flatMap faults) fun violation ↦ ∃ item ∈ items, property item violation := by
  induction items with
  | nil => exact lists_nil.congr (by simp)
  | cons item rest ih =>
    obtain ⟨hitem, hrest⟩ := List.forall_mem_cons.mp hlists
    obtain ⟨hbefore, horder⟩ := List.pairwise_cons.mp horder
    refine (hitem.append (ih hrest horder) ?_).congr (by simp)
    rintro v w hv ⟨later, hlater, hw⟩
    exact hbefore later hlater v w hv hw

theorem pairwise_snd_zipIdx {α : Type} (list : List α) :
    list.zipIdx.Pairwise fun item later ↦ item.2 < later.2 := by
  have hpositions := List.pairwise_lt_range' (s := 0) (n := list.length)
  rw [← List.zipIdx_map_snd 0 list] at hpositions
  exact List.pairwise_map.mp hpositions

/-- The errors of the elements of a list, if the violations at a position precede those at later
positions. -/
theorem Lists.flatMap_zipIdx {α : Type} {list : List α} {faults : α × Nat → List SongFault}
    {property : Nat → α → Violation → Prop}
    (hlists : ∀ i a, list[i]? = some a → Lists (faults (a, i)) (property i a))
    (horder : ∀ i j a b v w, i < j → property i a v → property j b w → v.Precedes w) :
    Lists (list.zipIdx.flatMap faults) fun violation ↦
      ∃ i a, list[i]? = some a ∧ property i a violation := by
  have hitems : Lists (list.zipIdx.flatMap faults) fun violation ↦
      ∃ item ∈ list.zipIdx, property item.2 item.1 violation :=
    Lists.flatMap
      (fun item hitem ↦ hlists item.2 item.1 (List.mem_zipIdx_iff_getElem?.mp hitem))
      ((pairwise_snd_zipIdx list).imp fun hlt v w hv hw ↦ horder _ _ _ _ v w hlt hv hw)
  refine hitems.congr fun violation ↦ ?_
  constructor
  · rintro ⟨⟨a, i⟩, hitem, hproperty⟩
    exact ⟨i, a, List.mem_zipIdx_iff_getElem?.mp hitem, hproperty⟩
  · rintro ⟨i, a, ha, hproperty⟩
    exact ⟨(a, i), List.mem_zipIdx_iff_getElem?.mpr ha, hproperty⟩

/-! ### Errors of a song -/

@[simp] theorem toList_elementPath (path : String) (position : Nat) :
    (elementPath path position).toList =
      path.toList ++ '[' :: (Nat.toDigits 10 position ++ [']']) := by
  simp [elementPath]

/-- The step breaks a rule. -/
def Step.Breaks (i j k : Nat) (step : Step) (violation : Violation) : Prop :=
  violation = .note i j k ∧ ∃ name, step.note = some name ∧ ¬IsNote name

/-- The channel of a pattern with a number of steps breaks a rule, or a step of it does. -/
def Channel.Breaks (i j : Nat) (steps : UInt8) (channel : Channel) (violation : Violation) :
    Prop :=
  (violation = .channelLength i j ∧ channel.steps.length ≠ steps.toNat) ∨
    ∃ (k : Nat) (step : Step), channel.steps[k]? = some step ∧ step.Breaks i j k violation

/-- The pattern breaks a rule, or a channel of it does. -/
def Pattern.Breaks (i : Nat) (pattern : Pattern) (violation : Violation) : Prop :=
  ((violation = .stepCount i ∧ (pattern.steps = 0 ∨ ¬pattern.steps.toNat ∣ 32)) ∨
    violation = .channelCount i ∧ pattern.channels.length ≠ 2) ∨
      ∃ (j : Nat) (channel : Channel), pattern.channels[j]? = some channel ∧
        channel.Breaks i j pattern.steps violation

/-- The hats break a rule. -/
def Hats.Breaks (hats : Hats) (violation : Violation) : Prop :=
  (((violation = .hatLength ∧ hats.pattern.length ≠ 32) ∨
    ∃ n value, hats.pattern[n]? = some value ∧ violation = .hatEntry n ∧ 1 < value.toNat) ∨
      violation = .hatVolume ∧ 15 < hats.volume.toNat) ∨
        violation = .hatPitch ∧ 31 < hats.pitch.toNat

theorem Channel.Breaks.rank {i j : Nat} {steps : UInt8} {channel : Channel}
    {violation : Violation} (h : channel.Breaks i j steps violation) :
    ∃ rest, violation.rank = [0, i, 2] ++ j :: rest := by
  rcases h with ⟨rfl, -⟩ | ⟨k, step, -, rfl, -⟩ <;> exact ⟨_, rfl⟩

theorem Pattern.Breaks.rank {i : Nat} {pattern : Pattern} {violation : Violation}
    (h : pattern.Breaks i violation) : ∃ rest, violation.rank = [0] ++ i :: rest := by
  rcases h with (⟨rfl, -⟩ | ⟨rfl, -⟩) | ⟨j, channel, -, h⟩
  · exact ⟨_, rfl⟩
  · exact ⟨_, rfl⟩
  · obtain ⟨rest, hrest⟩ := h.rank
    exact ⟨2 :: j :: rest, hrest⟩

theorem Hats.Breaks.rank {hats : Hats} {violation : Violation} (h : hats.Breaks violation) :
    ∃ rest, violation.rank = 1 :: rest := by
  rcases h with ((⟨rfl, -⟩ | ⟨n, value, -, rfl, -⟩) | ⟨rfl, -⟩) | ⟨rfl, -⟩ <;> exact ⟨_, rfl⟩

theorem Step.lists_faults (i j k : Nat) (step : Step) :
    Lists (step.faults (elementPath
      (elementPath (elementPath "patterns" i ++ ".channels") j ++ ".steps") k))
      (step.Breaks i j k) := by
  unfold Step.faults Step.Breaks
  cases step.note with
  | none => exact lists_nil.congr (by simp)
  | some name =>
    refine lists_faultIf (.note i j k) rfl (by simp [Violation.path]) ?_
    simp [← isNoteName_eq_true_iff]

theorem Channel.lists_faults (i j : Nat) (steps : UInt8) (channel : Channel) :
    Lists (channel.faults steps (elementPath (elementPath "patterns" i ++ ".channels") j))
      (channel.Breaks i j steps) := by
  refine (lists_faultIf (.channelLength i j) rfl (by simp [Violation.path]) (by simp)).append
    (Lists.flatMap_zipIdx (fun k step _ ↦ step.lists_faults i j k) ?_) ?_
  · rintro k l step other v w hlt ⟨rfl, -⟩ ⟨rfl, -⟩
    exact Violation.precedes_of_rank [0, i, 2, j, 1] hlt rfl rfl
  · rintro v w ⟨rfl, -⟩ ⟨k, step, -, rfl, -⟩
    exact Violation.precedes_of_rank [0, i, 2, j] Nat.zero_lt_one rfl rfl

theorem isNone_slotIncrement_iff (steps : UInt8) :
    (slotIncrement steps).isNone = true ↔ steps = 0 ∨ ¬steps.toNat ∣ 32 := by
  have hzero : steps = 0 ↔ steps.toNat = 0 := UInt8.toNat_inj.symm
  rw [hzero, Nat.dvd_iff_mod_eq_zero, slotIncrement]
  by_cases h : steps.toNat = 0 ∨ 32 % steps.toNat ≠ 0
  · simp [slotsPerPattern, h]
  · simp [slotsPerPattern, h]

theorem Pattern.lists_faults (i : Nat) (pattern : Pattern) :
    Lists (pattern.faults (elementPath "patterns" i)) (pattern.Breaks i) := by
  have hsteps := isNone_slotIncrement_iff pattern.steps
  have hchannels : (pattern.channels.length != channelsPerPattern) = true ↔
      pattern.channels.length ≠ 2 := bne_iff_ne
  refine ((lists_faultIf (.stepCount i) rfl (by simp [Violation.path]) hsteps).append
    (lists_faultIf (.channelCount i) rfl (by simp [Violation.path]) hchannels) ?_).append
      (Lists.flatMap_zipIdx (fun j channel _ ↦ channel.lists_faults i j pattern.steps) ?_) ?_
  · rintro v w ⟨rfl, -⟩ ⟨rfl, -⟩
    exact Violation.precedes_of_rank [0, i] Nat.zero_lt_one rfl rfl
  · intro j l channel other v w hlt hv hw
    obtain ⟨rest, hrest⟩ := hv.rank
    obtain ⟨more, hmore⟩ := hw.rank
    exact Violation.precedes_of_rank [0, i, 2] hlt hrest hmore
  · rintro v w hv ⟨j, channel, -, hw⟩
    obtain ⟨more, hmore⟩ := hw.rank
    rcases hv with ⟨rfl, -⟩ | ⟨rfl, -⟩
    · exact Violation.precedes_of_rank [0, i] Nat.zero_lt_two rfl hmore
    · exact Violation.precedes_of_rank [0, i] Nat.one_lt_two rfl hmore

theorem Hats.lists_faults (hats : Hats) : Lists hats.faults hats.Breaks := by
  have hlength : (hats.pattern.length != hatPatternLength) = true ↔ hats.pattern.length ≠ 32 :=
    bne_iff_ne
  refine (((lists_faultIf .hatLength rfl (by simp [Violation.path]) hlength).append
    (Lists.flatMap_zipIdx (fun n value _ ↦
      lists_faultIf (.hatEntry n) rfl (by simp [Violation.path]) decide_eq_true_iff) ?_) ?_).append
      (lists_faultIf .hatVolume rfl (by simp [Violation.path]) decide_eq_true_iff) ?_).append
        (lists_faultIf .hatPitch rfl (by simp [Violation.path]) decide_eq_true_iff) ?_
  · rintro n m value other v w hlt ⟨rfl, -⟩ ⟨rfl, -⟩
    exact Violation.precedes_of_rank [1, 1] hlt rfl rfl
  · rintro v w ⟨rfl, -⟩ ⟨n, value, -, rfl, -⟩
    exact Violation.precedes_of_rank [1] Nat.zero_lt_one rfl rfl
  · rintro v w (⟨rfl, -⟩ | ⟨n, value, -, rfl, -⟩) ⟨rfl, -⟩
    · exact Violation.precedes_of_rank [1] Nat.zero_lt_two rfl rfl
    · exact Violation.precedes_of_rank [1] Nat.one_lt_two rfl rfl
  · rintro v w ((⟨rfl, -⟩ | ⟨n, value, -, rfl, -⟩) | ⟨rfl, -⟩) ⟨rfl, -⟩ <;>
      exact Violation.precedes_of_rank [1] (by decide) rfl rfl

theorem Song.violates_iff (song : Song) (violation : Violation) :
    song.Violates violation ↔
      (∃ (i : Nat) (pattern : Pattern), song.patterns[i]? = some pattern ∧
        pattern.Breaks i violation) ∨ song.hats.Breaks violation := by
  constructor
  · intro h
    cases violation with
    | stepCount i =>
      obtain ⟨pattern, hpattern, hsteps⟩ := h
      exact Or.inl ⟨i, pattern, hpattern, Or.inl (Or.inl ⟨rfl, hsteps⟩)⟩
    | channelCount i =>
      obtain ⟨pattern, hpattern, hchannels⟩ := h
      exact Or.inl ⟨i, pattern, hpattern, Or.inl (Or.inr ⟨rfl, hchannels⟩)⟩
    | channelLength i j =>
      obtain ⟨pattern, channel, hpattern, hchannel, hlength⟩ := h
      exact Or.inl ⟨i, pattern, hpattern, Or.inr ⟨j, channel, hchannel, Or.inl ⟨rfl, hlength⟩⟩⟩
    | note i j k =>
      obtain ⟨pattern, channel, step, name, hpattern, hchannel, hstep, hname, hnote⟩ := h
      exact Or.inl ⟨i, pattern, hpattern, Or.inr ⟨j, channel, hchannel,
        Or.inr ⟨k, step, hstep, rfl, name, hname, hnote⟩⟩⟩
    | hatLength => exact Or.inr (Or.inl (Or.inl (Or.inl ⟨rfl, h⟩)))
    | hatEntry n =>
      obtain ⟨value, hvalue, hlarge⟩ := h
      exact Or.inr (Or.inl (Or.inl (Or.inr ⟨n, value, hvalue, rfl, hlarge⟩)))
    | hatVolume => exact Or.inr (Or.inl (Or.inr ⟨rfl, h⟩))
    | hatPitch => exact Or.inr (Or.inr ⟨rfl, h⟩)
  · rintro (⟨i, pattern, hpattern, (⟨rfl, h⟩ | ⟨rfl, h⟩) | ⟨j, channel, hchannel, hbreaks⟩⟩ |
      ((⟨rfl, h⟩ | ⟨n, value, hvalue, rfl, h⟩) | ⟨rfl, h⟩) | ⟨rfl, h⟩)
    · exact ⟨pattern, hpattern, h⟩
    · exact ⟨pattern, hpattern, h⟩
    · rcases hbreaks with ⟨rfl, h⟩ | ⟨k, step, hstep, rfl, name, hname, h⟩
      · exact ⟨pattern, channel, hpattern, hchannel, h⟩
      · exact ⟨pattern, channel, step, name, hpattern, hchannel, hstep, hname, h⟩
    · exact h
    · exact ⟨value, hvalue, h⟩
    · exact h
    · exact h

/-- The errors of a song stand for its violations. -/
theorem Song.lists_faults (song : Song) : Lists song.faults song.Violates := by
  refine Lists.congr (Lists.append (Lists.flatMap_zipIdx
    (fun i pattern _ ↦ pattern.lists_faults i) ?_) song.hats.lists_faults ?_)
    fun violation ↦ (song.violates_iff violation).symm
  · intro i l pattern other v w hlt hv hw
    obtain ⟨rest, hrest⟩ := hv.rank
    obtain ⟨more, hmore⟩ := hw.rank
    exact Violation.precedes_of_rank [0] hlt hrest hmore
  · rintro v w ⟨i, pattern, -, hv⟩ hw
    obtain ⟨rest, hrest⟩ := hv.rank
    obtain ⟨more, hmore⟩ := hw.rank
    exact Violation.precedes_of_rank [] Nat.zero_lt_one hrest hmore

/-! ### The report -/

theorem dvd_slots_iff {n : Nat} : n ∣ 32 ↔ n ∈ [1, 2, 4, 8, 16, 32] := by
  have hsmall : ∀ m < 33, (m ∣ 32 ↔ m ∈ [1, 2, 4, 8, 16, 32]) := by decide
  constructor
  · intro h
    exact (hsmall n (Nat.lt_succ_of_le (Nat.le_of_dvd (by decide) h))).mp h
  · intro h
    refine (hsmall n ?_).mpr h
    simp only [List.mem_cons, List.not_mem_nil, or_false] at h
    omega

theorem isUnusualStepCount_iff (steps : UInt8) :
    isUnusualStepCount steps = true ↔ steps ∈ [1, 2, 4, 8] := by
  have hsome : (slotIncrement steps).isSome = true ↔ ¬(steps = 0 ∨ ¬steps.toNat ∣ 32) := by
    rw [← isNone_slotIncrement_iff]
    cases slotIncrement steps <;> simp
  rw [isUnusualStepCount, Bool.and_eq_true, Bool.and_eq_true, hsome, bne_iff_ne, bne_iff_ne,
    dvd_slots_iff]
  simp only [List.mem_cons, List.not_mem_nil, or_false, ne_eq, ← UInt8.toNat_inj,
    UInt8.reduceToNat]
  omega

theorem mem_heading_warningIf {condition : Bool} {code : WarningCode} {message path : String}
    {heading : String × Option String} :
    heading ∈ (warningIf condition code message path).map (Finding.heading WarningCode.text) ↔
      condition = true ∧ heading = (code.text, some path) := by
  cases condition <;> simp [warningIf, Finding.heading]

/-- A warning about a number of steps is about a pattern of 1, 2, 4 or 8 steps. -/
theorem Song.mem_warnings_iff (song : Song) (place : Option String) :
    ("W002", place) ∈ song.warnings.map (Finding.heading WarningCode.text) ↔
      ∃ (i : Nat) (pattern : Pattern), song.patterns[i]? = some pattern ∧
        pattern.steps ∈ [1, 2, 4, 8] ∧
          place = some (renderPath (Violation.stepCount i).path) := by
  have hpath : ∀ i : Nat, elementPath "patterns" i ++ ".steps" =
      renderPath (Violation.stepCount i).path := by
    intro i
    apply String.toList_inj.mp
    simp [Violation.path]
  unfold Song.warnings
  rw [List.map_append, List.map_append, List.mem_append, List.mem_append, mem_heading_warningIf,
    mem_heading_warningIf, List.map_flatMap, List.mem_flatMap]
  constructor
  · rintro ((⟨-, h⟩ | ⟨-, h⟩) | ⟨⟨pattern, i⟩, hitem, h⟩)
    · exact absurd (Prod.mk.inj h).1 (by decide)
    · exact absurd (Prod.mk.inj h).1 (by decide)
    · obtain ⟨hsteps, h⟩ := mem_heading_warningIf.mp h
      exact ⟨i, pattern, List.mem_zipIdx_iff_getElem?.mp hitem,
        (isUnusualStepCount_iff pattern.steps).mp hsteps, by rw [(Prod.mk.inj h).2, hpath]⟩
  · rintro ⟨i, pattern, hpattern, hsteps, rfl⟩
    refine Or.inr ⟨(pattern, i), List.mem_zipIdx_iff_getElem?.mpr hpattern, ?_⟩
    refine mem_heading_warningIf.mpr ⟨(isUnusualStepCount_iff pattern.steps).mpr hsteps, ?_⟩
    rw [hpath]
    rfl

/-- The errors of the report are the violations of the song, one by one and in order, and no two of
them have the same code and path. The report passes, and gives its warnings as a result, exactly if
there are none. A warning about the number of steps is given for the patterns of 1, 2, 4 or 8 steps,
which are never reported for it. -/
theorem Song.validate_reports (song : Song) :
    (∃ violations : List Violation,
      song.validate.errors.map (Finding.heading ErrorCode.text) =
        violations.map Violation.heading ∧
      (∀ violation, violation ∈ violations ↔ song.Violates violation) ∧
      violations.Pairwise Violation.Precedes) ∧
    (song.validate.errors.map (Finding.heading ErrorCode.text)).Nodup ∧
    (song.validate.passes = true ↔ song.validate.errors = []) ∧
    ((∃ warnings, song.validate.toResult = .ok warnings) ↔ song.validate.errors = []) ∧
    (∀ place, ("W002", place) ∈ song.validate.warnings.map (Finding.heading WarningCode.text) ↔
      ∃ (i : Nat) (pattern : Pattern), song.patterns[i]? = some pattern ∧
        pattern.steps ∈ [1, 2, 4, 8] ∧
          place = some (renderPath (Violation.stepCount i).path)) ∧
    ∀ i : Nat,
      ¬((Violation.stepCount i).heading ∈
          song.validate.errors.map (Finding.heading ErrorCode.text) ∧
        ("W002", some (renderPath (Violation.stepCount i).path)) ∈
          song.validate.warnings.map (Finding.heading WarningCode.text)) := by
  rw [song.errors_validate, song.warnings_validate]
  have hpasses : song.validate.passes = true ↔ song.faults = [] := by
    rw [song.validate.passes_eq, song.errors_validate, List.isEmpty_iff]
  refine ⟨song.lists_faults, song.lists_faults.nodup, hpasses, ?_, song.mem_warnings_iff, ?_⟩
  · rw [← hpasses, Report.toResult]
    cases song.validate.passes <;> simp
  · rintro i ⟨herror, hwarning⟩
    obtain ⟨pattern, hpattern, hsteps⟩ := song.lists_faults.mem_heading_iff.mp herror
    obtain ⟨j, other, hother, hfour, hpath⟩ := (song.mem_warnings_iff _).mp hwarning
    have hsame : Violation.stepCount i = .stepCount j :=
      Violation.heading_injective (by rw [Violation.heading, Violation.heading, hpath]; rfl)
    cases hsame
    rw [hpattern] at hother
    cases hother
    have hnone := (isNone_slotIncrement_iff pattern.steps).mpr hsteps
    have hunusual := (isUnusualStepCount_iff pattern.steps).mpr hfour
    rw [isUnusualStepCount, Option.isNone_iff_eq_none.mp hnone] at hunusual
    cases hunusual

end StepSequencer
