import StepSequencer.Proofs.Assembly.Validity
import StepSequencer.Proofs.Json.Members
import StepSequencer.Proofs.Template.Pieces
import StepSequencer.Template.Reader
import StepSequencer.Template.Registry

/-!
# The assembler source of a song

`SongTexts.page` is the source of a song with fourteen texts in it. With tags in their places it is
the text that the template for songs is read from, and with the texts of a song (`SongTexts.ofSong`)
it is what the template gives. None of these texts is taken from the identifier, the instant of the
last change or the tuning of the song.

Every reference of the template has two names, and what the document of a song holds under them
does not depend on the order of its members (`Document.referenceText_encode`).
-/

set_option autoImplicit false
set_option relaxedAutoImplicit false

namespace StepSequencer

open Json (Value)

/-! ### Pages -/

/-- The texts in the assembler source of a song. -/
structure SongTexts where
  title : String
  author : String
  created : String
  tempo : String
  hatStart : String
  hatVolume : String
  hatPitch : String
  hatSound : String
  patterns : String
  highTable : String
  lowTable : String
  sequence1 : String
  sequence2 : String
  hatPattern : String
deriving DecidableEq, Repr

namespace SongTexts

/-- The assembler source with some texts in it. -/
def page (texts : SongTexts) : String :=
  "; " ++ texts.title ++
  "\n; by " ++ texts.author ++ ", created " ++ texts.created ++
  "\n;\n; Sequencer Kit song data generated by slocum\n\nTEMPODELAY equ " ++ texts.tempo ++
  "\n\nHATSTART equ " ++ texts.hatStart ++
  "\nHATVOLUME equ " ++ texts.hatVolume ++
  "\nHATPITCH equ " ++ texts.hatPitch ++
  "\nHATSOUND equ " ++ texts.hatSound ++
  "\n\n;--------------------------------------\n; patterns\n" ++
  ";--------------------------------------\n\n" ++ texts.patterns ++
  "\n;--------------------------------------\n; pattern tables\n" ++
  ";--------------------------------------\n\npatternArrayH\n" ++ texts.highTable ++
  "\npatternArrayL\n" ++ texts.lowTable ++
  "\n;--------------------------------------\n; song sequences\n" ++
  ";--------------------------------------\n\nsong1\n" ++ texts.sequence1 ++
  "\nsong2\n" ++ texts.sequence2 ++
  "\n;--------------------------------------\n; hi-hat pattern\n" ++
  ";--------------------------------------\n\nhatPattern\n" ++ texts.hatPattern ++ "\n"

/-- The texts that take the place of the references of the template. -/
def ofPaths (text : String → String) : SongTexts where
  title := text "meta.title"
  author := text "meta.author"
  created := text "meta.created"
  tempo := text "meta.tempo"
  hatStart := text "hats.start"
  hatVolume := text "hats.volume"
  hatPitch := text "hats.pitch"
  hatSound := text "hats.sound"
  patterns := text "patterns.patterns"
  highTable := text "patterns.patternArrayH"
  lowTable := text "patterns.patternArrayL"
  sequence1 := text "patterns.channel1sequence"
  sequence2 := text "patterns.channel2sequence"
  hatPattern := text "hats.pattern"

/-- The texts of a song and the fragments of its patterns. -/
def ofSong (formatter : Formatter) (song : Song) (fragments : Fragments) : SongTexts where
  title := song.info.title
  author := song.info.author
  created := formatter song.info.created
  tempo := Json.decimal song.info.tempo.toNat
  hatStart := Json.decimal song.hats.start.toNat
  hatVolume := Json.decimal song.hats.volume.toNat
  hatPitch := Json.decimal song.hats.pitch.toNat
  hatSound := Json.decimal song.hats.sound.toNat
  patterns := fragments.patterns
  highTable := fragments.highTable
  lowTable := fragments.lowTable
  sequence1 := fragments.sequence1
  sequence2 := fragments.sequence2
  hatPattern := hatText song.hats.pattern

end SongTexts

/-- The pieces of the template with texts for its references are a page. -/
theorem filled_songPieces (text : String → String) :
    Template.filled text songPieces = (SongTexts.ofPaths text).page := by
  unfold songPieces SongTexts.page SongTexts.ofPaths
  dsimp only [Template.filled]
  simp only [String.append_assoc, String.append_empty, -String.reduceAppend]

/-- The pieces of the template for songs can be read back. The characters of its literals are at
hand, which is faster than computing them from their bytes. -/
theorem isLegible_songPieces : Template.isLegible songPieces = true := by
  unfold songPieces
  simp only [Template.isLegible, Template.startsWithText, Template.isPath, Template.isBranch,
    String.toList_append]
  repeat rw [String.toList_ofList]
  decide +kernel

/-- The template for songs is read from its text. -/
theorem parse?_songText : Template.parse? songText = some songTemplate := by
  rw [songText, songTemplate]
  exact Template.parse?_filled_tag isLegible_songPieces

/-- The page with a tag in each place is the text of the template for songs. -/
theorem parse?_page_tags :
    Template.parse? (SongTexts.ofPaths Template.tag).page = some songTemplate := by
  rw [← filled_songPieces, ← songText]
  exact parse?_songText

/-- A new registry holds the template for songs. -/
theorem Registry.new_parse : Registry.new Template.parse = .ok Registry.builtIn := by
  have hread : Template.parse defaultTemplate songText = .ok songTemplate := by
    rw [Template.parse, parse?_songText]
  rw [Registry.new, hread]
  rfl

/-! ### References -/

/-- A reference of two names finds the value that was last put under them. -/
theorem Template.referenceText_canonical {path outer inner : String}
    {members others : List (String × Value)} {value : Value} (hword : word? path = none)
    (hnames : pathNames path = [outer, inner])
    (houter : Json.member? outer members.reverse = some (.object others))
    (hinner : Json.member? inner others.reverse = some value) :
    referenceText (Value.object members).canonical path = .ok (valueText value.canonical) := by
  have hlook : look [outer, inner] (Value.object members).canonical =
      .ok (some value.canonical) := by
    rw [Value.canonical, look, Json.member?_canonical, houter]
    dsimp only [Option.map_some]
    rw [Value.canonical, look, Json.member?_canonical, hinner]
    rfl
  unfold referenceText
  rw [hword]
  dsimp only
  rw [pathText, hnames, hlook]

/-- The same for a document, whose identifier is under a key of its own. -/
theorem Document.referenceText_encode (document : Document) {path outer inner : String}
    {others : List (String × Value)} {value : Value} (hword : Template.word? path = none)
    (hnames : Template.pathNames path = [outer, inner])
    (houter : Json.member? outer [("hats", document.encodeHats),
      ("patterns", document.fragments.encode), ("meta", document.encodeInfo)] =
        some (.object others))
    (hinner : Json.member? inner others.reverse = some value) :
    Template.referenceText document.encode.canonical path =
      .ok (Template.valueText value.canonical) := by
  refine Template.referenceText_canonical hword hnames ?_ hinner
  have hreverse : Json.member? outer [("meta", document.encodeInfo),
      ("patterns", document.fragments.encode), ("hats", document.encodeHats)].reverse =
        some (.object others) := houter
  rw [List.reverse_append, Json.member?_append, hreverse]
  rfl

namespace SongTexts

/-- The text in the place of a reference. -/
def text (texts : SongTexts) : String → String
  | "meta.title" => texts.title
  | "meta.author" => texts.author
  | "meta.created" => texts.created
  | "meta.tempo" => texts.tempo
  | "hats.start" => texts.hatStart
  | "hats.volume" => texts.hatVolume
  | "hats.pitch" => texts.hatPitch
  | "hats.sound" => texts.hatSound
  | "patterns.patterns" => texts.patterns
  | "patterns.patternArrayH" => texts.highTable
  | "patterns.patternArrayL" => texts.lowTable
  | "patterns.channel1sequence" => texts.sequence1
  | "patterns.channel2sequence" => texts.sequence2
  | "hats.pattern" => texts.hatPattern
  | _ => ""

theorem ofPaths_text (texts : SongTexts) : ofPaths texts.text = texts :=
  rfl

end SongTexts

/-- Every reference of the template finds its text in the document of a song. -/
theorem Document.referenceText_ofSong (formatter : Formatter) (song : Song)
    (fragments : Fragments) {path : String} (h : .reference path ∈ songPieces) :
    Template.referenceText (Document.ofSong formatter song fragments).encode.canonical path =
      .ok ((SongTexts.ofSong formatter song fragments).text path) := by
  simp only [songPieces, List.mem_cons, Template.Piece.reference.injEq, reduceCtorEq, false_or,
    List.not_mem_nil, or_false] at h
  rcases h with rfl | rfl | rfl | rfl | rfl | rfl | rfl | rfl | rfl | rfl | rfl | rfl | rfl | rfl
  all_goals exact (referenceText_encode _ rfl rfl rfl rfl).trans rfl

/-! ### Assembling -/

/-- A song that passes and has fragments is assembled to the page with its texts. -/
theorem assemble_of_fragments {encoder : Encoder} {formatter : Formatter} {song : Song}
    {fragments : Fragments} (hpasses : song.validate.errors = [])
    (hfragments : compilePatterns encoder song.info.tuning song.patterns = .ok fragments) :
    assemble encoder formatter Registry.builtIn.renderer "asm" song =
      .ok (SongTexts.ofSong formatter song fragments).page := by
  have hdocument : buildDocument encoder formatter song =
      .ok (Document.ofSong formatter song fragments) :=
    buildDocument_eq_ok_iff.mpr ⟨hpasses, fragments, hfragments, rfl⟩
  have hrender : songTemplate.render (Document.ofSong formatter song fragments).encode.canonical =
      .ok (SongTexts.ofSong formatter song fragments).page := by
    rw [songTemplate, Template.render_ofPieces
      fun _ hpath ↦ Document.referenceText_ofSong formatter song fragments hpath,
      filled_songPieces, SongTexts.ofPaths_text]
  have hfind : Registry.builtIn.find? "asm" = some songTemplate := rfl
  unfold assemble Registry.renderer Registry.render
  rw [hdocument]
  dsimp only
  rw [hfind]
  dsimp only
  rw [hrender]
  rfl

/-- A song with a document is always rendered by the template for songs. The result is the text of
the template with its tags replaced by the texts of the song, whatever is in them, and it stays
the same for another identifier, instant of the last change and tuning if the fragments do. -/
theorem assemble_builtIn {encoder : Encoder} {formatter : Formatter} {song : Song}
    {document : Document} (h : buildDocument encoder formatter song = .ok document) :
    Template.parse? (SongTexts.ofPaths Template.tag).page = some songTemplate ∧
    ∃ fragments, compilePatterns encoder song.info.tuning song.patterns = .ok fragments ∧
      assemble encoder formatter Registry.builtIn.renderer "asm" song =
        .ok (SongTexts.ofSong formatter song fragments).page ∧
      ∀ id modified tuning, compilePatterns encoder tuning song.patterns = .ok fragments →
        assemble encoder formatter Registry.builtIn.renderer "asm"
          { song with
            id := id, info := { song.info with modified := modified, tuning := tuning } } =
            .ok (SongTexts.ofSong formatter song fragments).page := by
  obtain ⟨hpasses, fragments, hfragments, -⟩ := buildDocument_eq_ok_iff.mp h
  refine ⟨parse?_page_tags, fragments, hfragments, assemble_of_fragments hpasses hfragments, ?_⟩
  intro id modified tuning hsame
  have hother : ({ song with
      id := id, info := { song.info with modified := modified, tuning := tuning } } :
        Song).validate.errors = [] := hpasses
  exact assemble_of_fragments hother hsame

/-- A new song whose title looks like a tag. -/
def taggedSong : Song :=
  { Song.new "a" 0 with
    info := { (Song.new "a" 0).info with title := Template.tag "meta.author" ++ " & <b>" } }

/-- A title that looks like a tag is put into the page as it is. -/
theorem assemble_builtIn_taggedSong :
    ∃ document fragments, buildDocument (fun _ step ↦ step.sound) (fun _ ↦ "now") taggedSong =
      .ok document ∧
    assemble (fun _ step ↦ step.sound) (fun _ ↦ "now") Registry.builtIn.renderer "asm" taggedSong =
      .ok (SongTexts.ofSong (fun _ ↦ "now") taggedSong fragments).page ∧
    (SongTexts.ofSong (fun _ ↦ "now") taggedSong fragments).title =
      "\x7b\x7bmeta.author\x7d\x7d & <b>" := by
  have hpasses : taggedSong.validate.errors = [] := by decide +kernel
  have hplayable : Playable (fun _ step ↦ step.sound) 0 taggedSong.patterns :=
    (playable_iff_of_regular (Song.regular_of_validate hpasses)).mpr (by decide +kernel)
  obtain ⟨compilation, hcompile⟩ := (exists_compile_iff (by decide +kernel)).mpr hplayable
  have hdocument : buildDocument (fun _ step ↦ step.sound) (fun _ ↦ "now") taggedSong =
      .ok (Document.ofSong (fun _ ↦ "now") taggedSong compilation.fragments) := by
    rw [buildDocument_of_errors_eq_nil hpasses]
    show (compile (fun _ step ↦ step.sound) 0 taggedSong.patterns).map _ = _
    rw [hcompile]
    rfl
  obtain ⟨-, fragments, -, hassemble, -⟩ := assemble_builtIn hdocument
  exact ⟨_, fragments, hdocument, hassemble, rfl⟩

end StepSequencer
