import StepSequencer.Assembly.Document
import StepSequencer.Proofs.Assembly.FirstFault

/-!
# Songs that pass can be compiled

The report about a song and the compiler check the shape of patterns apart from each other. A
pattern without errors in the report is `Regular`, and of regular patterns the compiler never
complains about the shape: what is left are steps with the reserved code, blocks that collide and
tables that run full (`isShapeError_eq_false_of_addPatterns`). This follows the compiler call by
call and does not ask what the store holds, so colliding blocks are no exception.

Together with the faults of a song this says when a song that passes has a document.
-/

set_option autoImplicit false
set_option relaxedAutoImplicit false

namespace StepSequencer

/-- Whether an error is about the shape of a song, and not about its sounds or the room for
them. -/
def AssemblyError.isShapeError : AssemblyError → Bool
  | .invalidSong _ => true
  | .invalidStepCount _ => true
  | .stepCountMismatch _ _ => true
  | .wrongChannelCount _ _ => true
  | .channelOutOfRange _ => true
  | _ => false

/-! ### Patterns without errors -/

/-- A pattern of two channels, with as many steps as it says, which fill the slots evenly. -/
structure Pattern.Regular (pattern : Pattern) : Prop where
  increment : (slotIncrement pattern.steps).isSome
  channels : pattern.channels.length = channelsPerPattern
  lengths : ∀ channel ∈ pattern.channels, channel.steps.length = pattern.steps.toNat

theorem faultIf_eq_nil_iff {condition : Bool} {code : ErrorCode} {message path : String} :
    faultIf condition code message path = [] ↔ condition = false := by
  unfold faultIf
  split <;> simp_all

/-- Where nothing is found in a list, nothing is found at any of its elements. -/
theorem forall_mem_of_flatMap_zipIdx_eq_nil {α β : Type} {list : List α}
    {results : α × Nat → List β} (h : list.zipIdx.flatMap results = []) :
    ∀ a ∈ list, ∃ position, results (a, position) = [] := by
  intro a ha
  obtain ⟨position, hposition⟩ := List.getElem?_of_mem ha
  rw [List.flatMap_eq_nil_iff] at h
  exact ⟨position, h (a, position) (List.mk_mem_zipIdx_iff_getElem?.mpr hposition)⟩

/-- A channel without faults fills its pattern. -/
theorem Channel.length_of_faults_eq_nil {steps : UInt8} {path : String} {channel : Channel}
    (h : channel.faults steps path = []) : channel.steps.length = steps.toNat := by
  unfold Channel.faults at h
  rw [List.append_eq_nil_iff, faultIf_eq_nil_iff] at h
  simpa using h.1

/-- A pattern without faults is regular. -/
theorem Pattern.regular_of_faults_eq_nil {path : String} {pattern : Pattern}
    (h : pattern.faults path = []) : pattern.Regular := by
  unfold Pattern.faults at h
  rw [List.append_eq_nil_iff, List.append_eq_nil_iff, faultIf_eq_nil_iff, faultIf_eq_nil_iff] at h
  obtain ⟨⟨hincrement, hchannels⟩, hothers⟩ := h
  refine ⟨by simpa using hincrement, by simpa using hchannels, ?_⟩
  intro channel hchannel
  obtain ⟨position, hnone⟩ := forall_mem_of_flatMap_zipIdx_eq_nil hothers channel hchannel
  exact Channel.length_of_faults_eq_nil hnone

/-- All patterns of a song that passes are regular. -/
theorem Song.regular_of_validate {song : Song} (h : song.validate.errors = []) :
    ∀ pattern ∈ song.patterns, pattern.Regular := by
  intro pattern hpattern
  rw [Song.errors_validate] at h
  obtain ⟨hpatterns, -⟩ := List.append_eq_nil_iff.mp h
  obtain ⟨position, hnone⟩ := forall_mem_of_flatMap_zipIdx_eq_nil hpatterns pattern hpattern
  exact Pattern.regular_of_faults_eq_nil hnone

/-! ### Errors of the compiler on regular patterns -/

/-- Storing a text fails only for its identity. -/
theorem isShapeError_eq_false_of_insert {store next : BlockStore} {text : String}
    {fault : AssemblyError} (h : store.insert text = (.error fault, next)) :
    fault.isShapeError = false := by
  rcases store.insert_cases text with ⟨position, block, hinsert, -⟩ | ⟨block, -, hinsert, -⟩ |
    ⟨longer, hinsert, -⟩
  · rw [hinsert] at h
    cases h
  · rw [hinsert] at h
    cases h
    rfl
  · rw [hinsert] at h
    cases h

/-- A group fails only for a step with the reserved code. -/
theorem isShapeError_eq_false_of_resolveGroup {encoder : Encoder} {tuning : UInt8}
    {group : List (Option Step)} {fault : AssemblyError}
    (h : resolveGroup encoder tuning group = .error fault) : fault.isShapeError = false := by
  rw [resolveGroup_eq] at h
  split at h
  · rename_i other hother
    cases h
    obtain ⟨step, -, hstep⟩ := List.exists_of_findSome?_eq_some hother
    obtain ⟨step, -, hreserved⟩ := Option.bind_eq_some_iff.mp hstep
    unfold reservedFault? at hreserved
    split at hreserved
    · cases hreserved
      rfl
    · cases hreserved
  · cases h

theorem isShapeError_eq_false_of_storeGroups {encoder : Encoder} {tuning : UInt8}
    {groups : List (List (Option Step))} {store next : BlockStore} {fault : AssemblyError}
    (h : storeGroups encoder tuning groups store = (.error fault, next)) :
    fault.isShapeError = false := by
  induction groups generalizing store with
  | nil => cases h
  | cons group rest ih =>
    unfold storeGroups at h
    split at h
    · rename_i other hresolve
      cases h
      exact isShapeError_eq_false_of_resolveGroup hresolve
    · split at h
      · rename_i other left hinsert
        cases h
        exact isShapeError_eq_false_of_insert hinsert
      · split at h
        · rename_i other final hrest
          cases h
          exact ih hrest
        · cases h

/-- A channel that fills its pattern fails only in its groups. -/
theorem isShapeError_eq_false_of_compileChannel {encoder : Encoder} {tuning steps : UInt8}
    {channel : Channel} {store next : BlockStore} {fault : AssemblyError}
    (hincrement : (slotIncrement steps).isSome) (hlength : channel.steps.length = steps.toNat)
    (h : compileChannel encoder tuning steps channel store = (.error fault, next)) :
    fault.isShapeError = false := by
  obtain ⟨increment, hsome⟩ := Option.isSome_iff_exists.mp hincrement
  unfold compileChannel at h
  rw [hsome] at h
  simp only [hlength, ne_eq, not_true_eq_false, if_false] at h
  split at h
  · rename_i other final hgroups
    cases h
    exact isShapeError_eq_false_of_storeGroups hgroups
  · cases h

/-- A table fails only when it is full. -/
theorem isShapeError_eq_false_of_push {table next : EntryTable} {blocks : List Nat}
    {fault : AssemblyError} (h : table.push blocks = (.error fault, next)) :
    fault.isShapeError = false := by
  unfold EntryTable.push at h
  split at h
  · cases h
    rfl
  · cases h

/-- Adding a voice on one of the two channels fails only when its table is full. -/
theorem isShapeError_eq_false_of_add {arrangement next : Arrangement} {position : Nat}
    {voice : Voice} {fault : AssemblyError} (hposition : position < channelsPerPattern)
    (h : arrangement.add position voice = (.error fault, next)) :
    fault.isShapeError = false := by
  unfold Arrangement.add at h
  rw [if_neg (Nat.not_le.mpr hposition)] at h
  dsimp only at h
  split at h
  · rename_i other left hpush
    cases h
    exact isShapeError_eq_false_of_push hpush
  · cases h

theorem isShapeError_eq_false_of_addChannel {encoder : Encoder} {tuning steps : UInt8}
    {compilation : Compilation} {position : Nat} {channel : Channel} {fault : AssemblyError}
    (hincrement : (slotIncrement steps).isSome) (hlength : channel.steps.length = steps.toNat)
    (hposition : position < channelsPerPattern)
    (h : compilation.addChannel encoder tuning steps position channel = .error fault) :
    fault.isShapeError = false := by
  unfold Compilation.addChannel at h
  split at h
  · rename_i other store hcompile
    cases h
    exact isShapeError_eq_false_of_compileChannel hincrement hlength hcompile
  · split at h
    · rename_i other left hadd
      cases h
      exact isShapeError_eq_false_of_add hposition hadd
    · cases h

/-- The channels of a regular pattern never fail for their shape. -/
theorem isShapeError_eq_false_of_addChannels {encoder : Encoder} {tuning steps : UInt8}
    {compilation : Compilation} {position : Nat} {channels : List Channel} {fault : AssemblyError}
    (hincrement : (slotIncrement steps).isSome)
    (hlengths : ∀ channel ∈ channels, channel.steps.length = steps.toNat)
    (hposition : position + channels.length ≤ channelsPerPattern)
    (h : Compilation.addChannels encoder tuning steps compilation position channels =
      .error fault) : fault.isShapeError = false := by
  induction channels generalizing compilation position with
  | nil => cases h
  | cons channel rest ih =>
    rw [List.length_cons] at hposition
    obtain ⟨hlength, hrest⟩ := List.forall_mem_cons.mp hlengths
    unfold Compilation.addChannels at h
    split at h
    · rename_i other hadd
      cases h
      exact isShapeError_eq_false_of_addChannel hincrement hlength (by omega) hadd
    · exact ih hrest (by omega) h

/-- The compiler does not complain about the shape of regular patterns. -/
theorem isShapeError_eq_false_of_addPatterns {encoder : Encoder} {tuning : UInt8}
    {compilation : Compilation} {position : Nat} {patterns : List Pattern} {fault : AssemblyError}
    (hregular : ∀ pattern ∈ patterns, pattern.Regular)
    (h : Compilation.addPatterns encoder tuning compilation position patterns = .error fault) :
    fault.isShapeError = false := by
  induction patterns generalizing compilation position with
  | nil => cases h
  | cons pattern rest ih =>
    obtain ⟨hpattern, hrest⟩ := List.forall_mem_cons.mp hregular
    unfold Compilation.addPatterns at h
    rw [if_neg (not_not_intro hpattern.channels)] at h
    split at h
    · rename_i other hchannels
      cases h
      exact isShapeError_eq_false_of_addChannels hpattern.increment hpattern.lengths
        (by rw [Nat.zero_add]; exact Nat.le_of_eq hpattern.channels) hchannels
    · exact ih hrest h

/-! ### Documents of songs that pass -/

/-- Regular patterns can be played if no step has the reserved code and there is room in both
tables. -/
theorem playable_iff_of_regular {encoder : Encoder} {tuning : UInt8} {patterns : List Pattern}
    (h : ∀ pattern ∈ patterns, pattern.Regular) :
    Playable encoder tuning patterns ↔
      (∀ pattern ∈ patterns, ∀ channel ∈ pattern.channels, ∀ step ∈ channel.steps,
        encoder tuning step ≠ some 255) ∧
        (songChannels patterns).countP (fun channel ↦ !channel.attenuate) ≤ 128 ∧
          (songChannels patterns).countP (fun channel ↦ channel.attenuate) ≤ 127 := by
  constructor
  · intro hplayable
    exact ⟨hplayable.codes, hplayable.high, hplayable.low⟩
  · rintro ⟨hcodes, hhigh, hlow⟩
    refine ⟨fun pattern hpattern ↦ (h pattern hpattern).channels, ?_,
      fun pattern hpattern ↦ (h pattern hpattern).lengths, hcodes, hhigh, hlow⟩
    intro pattern hpattern
    obtain ⟨increment, hsome⟩ := Option.isSome_iff_exists.mp (h pattern hpattern).increment
    obtain ⟨hpos, hdvd, -⟩ := slotIncrement_eq_some_iff.mp hsome
    exact ⟨hpos, hdvd⟩

/-- Where the groups that occur have distinct identities, exactly the playable songs compile. -/
theorem exists_compile_iff {encoder : Encoder} {tuning : UInt8} {patterns : List Pattern}
    (h : DistinctIdentities (occurringGroups encoder tuning patterns)) :
    (∃ compilation, compile encoder tuning patterns = .ok compilation) ↔
      Playable encoder tuning patterns := by
  have hagrees := compile_agrees encoder tuning patterns
  rw [← songFaults_eq_nil_iff]
  constructor
  · rintro ⟨compilation, hcompile⟩
    rw [hcompile] at hagrees
    exact hagrees.1
  · intro hnone
    cases hcompile : compile encoder tuning patterns with
    | ok compilation => exact ⟨compilation, rfl⟩
    | error fault =>
      rw [hcompile, hnone] at hagrees
      exact absurd hagrees (by simpa [Agrees] using h.not_hasCollision)

theorem Report.toResult_of_errors_ne_nil {report : Report} (h : report.errors ≠ []) :
    report.toResult = .error report.errors := by
  unfold Report.toResult
  rw [report.passes_eq, if_neg (by simpa using h)]

theorem Report.toResult_of_errors_eq_nil {report : Report} (h : report.errors = []) :
    report.toResult = .ok report.warnings := by
  unfold Report.toResult
  rw [report.passes_eq, if_pos (by simpa using h)]

/-- A song with errors has no document, and its errors are the reason. -/
theorem buildDocument_of_errors_ne_nil {song : Song} (h : song.validate.errors ≠ [])
    (encoder : Encoder) (formatter : Formatter) :
    buildDocument encoder formatter song = .error (.invalidSong song.validate.errors) := by
  unfold buildDocument
  rw [Report.toResult_of_errors_ne_nil h]

/-- A song without errors has the document of its compilation, if it can be compiled. -/
theorem buildDocument_of_errors_eq_nil {song : Song} (h : song.validate.errors = [])
    (encoder : Encoder) (formatter : Formatter) :
    buildDocument encoder formatter song =
      (compile encoder song.info.tuning song.patterns).map fun compilation ↦
        Document.ofSong formatter song compilation.fragments := by
  unfold buildDocument compilePatterns
  rw [Report.toResult_of_errors_eq_nil h]
  cases compile encoder song.info.tuning song.patterns <;> rfl

/-- What it takes to have a document: the song passes and its patterns compile. -/
theorem buildDocument_eq_ok_iff {encoder : Encoder} {formatter : Formatter} {song : Song}
    {document : Document} : buildDocument encoder formatter song = .ok document ↔
      song.validate.errors = [] ∧
        ∃ fragments, compilePatterns encoder song.info.tuning song.patterns = .ok fragments ∧
          document = Document.ofSong formatter song fragments := by
  by_cases hpasses : song.validate.errors = []
  · unfold buildDocument
    rw [Report.toResult_of_errors_eq_nil hpasses]
    dsimp only
    cases compilePatterns encoder song.info.tuning song.patterns with
    | error fault => simp [Except.map]
    | ok fragments => simp [Except.map, hpasses, eq_comm]
  · rw [buildDocument_of_errors_ne_nil hpasses]
    simp [hpasses]

/-- A text that is assembled was rendered from the document of the song. -/
theorem assemble_eq_ok {encoder : Encoder} {formatter : Formatter} {renderer : Renderer}
    {template text : String} {song : Song}
    (h : assemble encoder formatter renderer template song = .ok text) :
    ∃ document, buildDocument encoder formatter song = .ok document ∧
      renderer template document.encode.canonical = .ok text := by
  unfold assemble at h
  split at h
  · cases h
  · rename_i document hdocument
    split at h
    · cases h
    · rename_i hrender
      cases h
      exact ⟨document, hdocument, hrender⟩

/-- A song that does not pass is refused with the errors of its report, whatever the encoder and
the renderer are. A song that passes is never refused for its shape, and if its blocks do not
collide it has a document exactly when no step has the reserved code and there is room in both
tables. -/
theorem buildDocument_agrees_validate (encoder : Encoder) (formatter : Formatter)
    (renderer : Renderer) (template : String) (song : Song) :
    (song.validate.errors ≠ [] →
      buildDocument encoder formatter song = .error (.invalidSong song.validate.errors) ∧
        assemble encoder formatter renderer template song =
          .error (.invalidSong song.validate.errors)) ∧
    (song.validate.errors = [] →
      (∀ fault, buildDocument encoder formatter song = .error fault →
        fault.isShapeError = false) ∧
      (DistinctIdentities (occurringGroups encoder song.info.tuning song.patterns) →
        ((∃ document, buildDocument encoder formatter song = .ok document) ↔
          (∀ pattern ∈ song.patterns, ∀ channel ∈ pattern.channels, ∀ step ∈ channel.steps,
            encoder song.info.tuning step ≠ some 255) ∧
          (songChannels song.patterns).countP (fun channel ↦ !channel.attenuate) ≤ 128 ∧
          (songChannels song.patterns).countP (fun channel ↦ channel.attenuate) ≤ 127))) := by
  refine ⟨fun herrors ↦ ?_, fun hpasses ↦ ?_⟩
  · have hdocument := buildDocument_of_errors_ne_nil herrors encoder formatter
    refine ⟨hdocument, ?_⟩
    unfold assemble
    rw [hdocument]
  · have hregular := Song.regular_of_validate hpasses
    rw [buildDocument_of_errors_eq_nil hpasses encoder formatter]
    refine ⟨?_, fun hdistinct ↦ ?_⟩
    · intro fault hfault
      cases hcompile : compile encoder song.info.tuning song.patterns with
      | ok compilation =>
        rw [hcompile] at hfault
        cases hfault
      | error other =>
        rw [hcompile] at hfault
        cases hfault
        exact isShapeError_eq_false_of_addPatterns hregular hcompile
    · rw [← playable_iff_of_regular hregular, ← exists_compile_iff hdistinct]
      cases compile encoder song.info.tuning song.patterns <;> simp [Except.map]

/-- A song whose voices share some of their groups: a sound in two of them, another one with and
without an accent, and rests. -/
def bandSong : Song :=
  { Song.new "band" 0 with patterns := [
      ⟨4, [⟨false, [.percussion 7, (Step.percussion 5).accented, {}, .percussion 7]⟩,
        ⟨true, [{}, .percussion 5, .percussion 7, {}]⟩]⟩,
      ⟨2, [⟨false, [.percussion 5, {}]⟩, ⟨false, [{}, .percussion 7]⟩]⟩] }

/-- The song has a document, but none with an encoder that knows the reserved code only. Without
hats it is refused for the length of its hat pattern, also by that encoder. -/
theorem agrees_validate_bandSong :
    (∃ document, buildDocument (fun _ step ↦ step.sound) (fun _ ↦ "") bandSong = .ok document) ∧
    (¬∃ document, buildDocument (fun _ _ ↦ some 255) (fun _ ↦ "") bandSong = .ok document) ∧
    ∃ faults, buildDocument (fun _ _ ↦ some 255) (fun _ ↦ "")
      { bandSong with hats := { pattern := [] } } = .error (.invalidSong faults) ∧
        faults.map Finding.code = [.hatPatternLength] := by
  have hpasses : bandSong.validate.errors = [] := by decide +kernel
  have hdocument := (buildDocument_agrees_validate (fun _ step ↦ step.sound) (fun _ ↦ "")
    (fun _ _ ↦ .ok "") "asm" bandSong).2 hpasses
  have hreserved := (buildDocument_agrees_validate (fun _ _ ↦ some 255) (fun _ ↦ "")
    (fun _ _ ↦ .ok "") "asm" bandSong).2 hpasses
  have hrefused := (buildDocument_agrees_validate (fun _ _ ↦ some 255) (fun _ ↦ "")
    (fun _ _ ↦ .ok "") "asm" { bandSong with hats := { pattern := [] } }).1 (by decide +kernel)
  refine ⟨(hdocument.2 (by decide +kernel)).mpr (by decide +kernel), ?_, _, hrefused.1,
    by decide +kernel⟩
  rw [hreserved.2 (by decide +kernel)]
  decide +kernel

end StepSequencer
