import StepSequencer.Proofs.Template.SongPage
import StepSequencer.Proofs.Text.Lines

/-!
# What the title and the author do to the code

The title and the author of a song stand in the first two lines of its assembler source, behind a
semicolon, which makes a comment of the rest of the line. They are written as they are, so a line
break in them starts a line of its own. `codeLines_page` says exactly what follows for the lines
that are no comments: first come the lines that start behind a line break of the title, then those
behind a line break of the author and the date, as far as they are no comments (`strayLines`), and
all others are the same whatever the title and the author are.
-/

set_option autoImplicit false
set_option relaxedAutoImplicit false

namespace StepSequencer

/-! ### Lines behind a line break -/

namespace Text

/-- Whether a line is no comment. -/
def isCode (line : String) : Bool :=
  line.toList.head? ≠ some ';'

/-- The lines of a text that are no comments. -/
def codeLines (text : String) : List String :=
  (lines text).filter isCode

/-- The lines that start behind a line break of a text and are no comments. -/
def strayLines (text : String) : List String :=
  ((split '\n' text.toList).tail.map String.ofList).filter isCode

/-- What stands in a text before its first line break does not matter. -/
theorem strayLines_append {front : String} (h : '\n' ∉ front.toList) (text : String) :
    strayLines (front ++ text) = strayLines text := by
  obtain ⟨part, parts, htext⟩ := exists_split_eq_cons '\n' text.toList
  rw [strayLines, strayLines, String.toList_append, split_append_of_not_mem h htext, htext,
    List.tail_cons, List.tail_cons]

/-- A text without a newline leaves no lines behind it. -/
theorem strayLines_of_not_mem {text : String} (h : '\n' ∉ text.toList) : strayLines text = [] := by
  rw [strayLines, split_of_not_mem h]
  rfl

/-- A text that starts with a line break adds its lines to those of the text before it. -/
theorem strayLines_append_break (first : String) {second : String}
    (h : second.toList.head? = some '\n') :
    strayLines (first ++ second) = strayLines first ++ strayLines second := by
  obtain ⟨rest, hsecond⟩ := List.head?_eq_some_iff.mp h
  obtain ⟨part, parts, hfirst⟩ := exists_split_eq_cons '\n' first.toList
  have hrest : split '\n' ('\n' :: rest) = [] :: split '\n' rest := by
    rw [split, if_pos rfl]
  rw [strayLines, strayLines, strayLines, String.toList_append, hsecond, split_append_cons, hfirst,
    hrest, List.cons_append, List.tail_cons, List.tail_cons, List.tail_cons, List.map_append,
    List.filter_append]

/-- Behind a semicolon only what follows a line break is code. -/
theorem filter_isCode_split_cons (text : List Char) :
    ((split '\n' (';' :: text)).map String.ofList).filter isCode =
      ((split '\n' text).tail.map String.ofList).filter isCode := by
  obtain ⟨part, parts, htext⟩ := exists_split_eq_cons '\n' text
  have hsplit : split '\n' ([';'] ++ text) = ([';'] ++ part) :: parts :=
    split_append_of_not_mem (by decide) htext
  rw [List.singleton_append, List.singleton_append] at hsplit
  have hcomment : ¬ isCode (String.ofList (';' :: part)) = true := by
    simp [isCode]
  rw [hsplit, htext, List.map_cons, List.filter_cons_of_neg hcomment, List.tail_cons]

/-- The lines of code in a comment are those behind its first newline. -/
theorem codeLines_comment (text : String) : codeLines (";" ++ text ++ "\n") = strayLines text := by
  have htext : (";" ++ text).toList = ';' :: text.toList := String.toList_append
  rw [codeLines, lines_append_newline, htext, filter_isCode_split_cons, strayLines]

/-- A comment below another line adds only its own stray lines. -/
theorem strayLines_comment (text : String) : strayLines ("\n;" ++ text) = strayLines text := by
  have htext : ("\n;" ++ text).toList = '\n' :: ';' :: text.toList := String.toList_append
  rw [strayLines, htext, split, if_pos rfl, List.tail_cons, filter_isCode_split_cons, strayLines]

end Text

open Text (codeLines strayLines)

/-! ### The heading of a page -/

theorem Template.filled_append (fill : String → String) (first second : List Piece) :
    filled fill (first ++ second) = filled fill first ++ filled fill second := by
  induction first with
  | nil => simp [filled]
  | cons piece rest ih =>
    cases piece with
    | text text => rw [List.cons_append, filled, ih, filled, String.append_assoc]
    | reference path => rw [List.cons_append, filled, ih, filled, String.append_assoc]

/-- The pieces of the template for songs between the heading and the last newline. -/
def bodyPieces : List Template.Piece :=
  (songPieces.drop 6).dropLast

namespace SongTexts

/-- What stands on a page between its heading and the last newline. -/
def body (texts : SongTexts) : String :=
  Template.filled texts.text bodyPieces

/-- What stands behind the words that start the second line of a page. -/
def credit (texts : SongTexts) : String :=
  texts.author ++ ", created " ++ texts.created

/-- A page is a comment with the title, a comment with the credit, and its body. -/
theorem page_eq (texts : SongTexts) :
    texts.page = ";" ++ (" " ++ texts.title ++ ("\n;" ++ (" by " ++ texts.credit) ++
      texts.body)) ++ "\n" := by
  have hpieces : songPieces = [.text "; ", .reference "meta.title", .text "\n; by ",
      .reference "meta.author", .text ", created ", .reference "meta.created"] ++
        (bodyPieces ++ [.text "\n"]) := rfl
  have hpage : texts.page = Template.filled texts.text songPieces := by
    rw [filled_songPieces, ofPaths_text]
  have hfirst : "; " = ";" ++ " " := rfl
  have hsecond : "\n; by " = "\n;" ++ " by " := rfl
  rw [hpage, hpieces, Template.filled_append, Template.filled_append]
  dsimp only [Template.filled, text]
  simp only [hfirst, hsecond, String.append_assoc, String.append_empty, body, credit,
    -String.reduceAppend]

theorem head?_body (texts : SongTexts) : texts.body.toList.head? = some '\n' := by
  have hbody : texts.body =
      "\n;\n; Sequencer Kit song data generated by slocum\n\nTEMPODELAY equ " ++
        Template.filled texts.text bodyPieces.tail := rfl
  rw [hbody, String.toList_append, List.head?_append]
  rfl

/-- The code of a page is what follows the line breaks of the title, what follows those of the
author and the date, and the code of the body. -/
theorem codeLines_page (texts : SongTexts) :
    codeLines texts.page =
      strayLines texts.title ++ (strayLines texts.credit ++ strayLines texts.body) := by
  have hsecond : ("\n;" ++ (" by " ++ texts.credit) ++ texts.body).toList.head? = some '\n' := by
    rw [String.toList_append, String.toList_append, List.head?_append, List.head?_append]
    rfl
  rw [page_eq, Text.codeLines_comment, Text.strayLines_append_break _ hsecond,
    Text.strayLines_append_break _ texts.head?_body, Text.strayLines_comment,
    Text.strayLines_append (by decide), Text.strayLines_append (by decide)]

end SongTexts

/-! ### Songs with another title and author -/

namespace Song

/-- The song under another title and author. -/
def withCredits (song : Song) (title author : String) : Song :=
  { song with info := { song.info with title := title, author := author } }

/-- The code that the title, the author and the date of a song put into its assembler source. -/
def headingCode (formatter : Formatter) (song : Song) : List String :=
  strayLines song.info.title ++
    strayLines (song.info.author ++ ", created " ++ formatter song.info.created)

/-- A title and an author without line breaks put no code into the source. -/
theorem headingCode_of_not_mem {formatter : Formatter} {song : Song}
    (htitle : '\n' ∉ song.info.title.toList) (hauthor : '\n' ∉ song.info.author.toList) :
    song.headingCode formatter = strayLines (formatter song.info.created) := by
  have hfront : '\n' ∉ (song.info.author ++ ", created ").toList := by
    rw [String.toList_append, List.mem_append]
    rintro (hmem | hmem)
    · exact hauthor hmem
    · exact absurd hmem (by decide)
  rw [headingCode, Text.strayLines_of_not_mem htitle, Text.strayLines_append hfront,
    List.nil_append]

end Song

/-- Whether a song is assembled does not depend on the title and the author, which neither the
report nor the compiler looks at, and all code behind that of the heading is the same for all of
them. -/
theorem exists_assemble_withCredits {encoder : Encoder} {formatter : Formatter} {song : Song}
    {text : String}
    (h : assemble encoder formatter Registry.builtIn.renderer "asm" song = .ok text) :
    ∃ shared, ∀ title author, ∃ other,
      assemble encoder formatter Registry.builtIn.renderer "asm" (song.withCredits title author) =
        .ok other ∧
      codeLines other = (song.withCredits title author).headingCode formatter ++ shared := by
  obtain ⟨document, hdocument, -⟩ := assemble_eq_ok h
  obtain ⟨hpasses, fragments, hfragments, -⟩ := buildDocument_eq_ok_iff.mp hdocument
  refine ⟨strayLines (SongTexts.ofSong formatter song fragments).body, fun title author ↦ ?_⟩
  have hother : (song.withCredits title author).validate.errors = [] := by
    rw [Song.errors_validate] at hpasses ⊢
    exact hpasses
  refine ⟨_, assemble_of_fragments hother hfragments, ?_⟩
  rw [SongTexts.codeLines_page, ← List.append_assoc]
  rfl

/-- Songs that differ only in the title and the author are assembled alike, and their sources have
the same code behind what the headings put there. So all code is the same exactly if the headings
put the same code there, as they do where no line break stands in a title or an author. -/
theorem codeLines_assemble_withCredits {encoder : Encoder} {formatter : Formatter} {song : Song}
    {text : String}
    (h : assemble encoder formatter Registry.builtIn.renderer "asm" song = .ok text) :
    ∃ shared, codeLines text = song.headingCode formatter ++ shared ∧
      ∀ title author, ∃ other,
        assemble encoder formatter Registry.builtIn.renderer "asm"
          (song.withCredits title author) = .ok other ∧
        codeLines other = (song.withCredits title author).headingCode formatter ++ shared ∧
        (codeLines other = codeLines text ↔
          (song.withCredits title author).headingCode formatter = song.headingCode formatter) ∧
        ('\n' ∉ song.info.title.toList → '\n' ∉ song.info.author.toList →
          '\n' ∉ title.toList → '\n' ∉ author.toList → codeLines other = codeLines text) := by
  obtain ⟨shared, hshared⟩ := exists_assemble_withCredits h
  obtain ⟨same, hsame, htext⟩ := hshared song.info.title song.info.author
  have hsong : song.withCredits song.info.title song.info.author = song := rfl
  rw [hsong, h, Except.ok.injEq] at hsame
  rw [hsong, ← hsame] at htext
  refine ⟨shared, htext, fun title author ↦ ?_⟩
  obtain ⟨other, hassemble, hother⟩ := hshared title author
  have hiff : codeLines other = codeLines text ↔
      (song.withCredits title author).headingCode formatter = song.headingCode formatter := by
    rw [hother, htext, List.append_cancel_right_eq]
  refine ⟨other, hassemble, hother, hiff, fun hold holdAuthor htitle hauthor ↦ hiff.mpr ?_⟩
  have hnew : (song.withCredits title author).headingCode formatter =
      strayLines (formatter song.info.created) := Song.headingCode_of_not_mem htitle hauthor
  rw [hnew, Song.headingCode_of_not_mem hold holdAuthor]

theorem exists_assemble_new :
    ∃ text, assemble (fun _ step ↦ step.sound) (fun _ ↦ "now") Registry.builtIn.renderer "asm"
      (Song.new "a" 0) = .ok text := by
  have hpasses : (Song.new "a" 0).validate.errors = [] := by decide +kernel
  have hplayable : Playable (fun _ step ↦ step.sound) 0 (Song.new "a" 0).patterns :=
    (playable_iff_of_regular (Song.regular_of_validate hpasses)).mpr (by decide +kernel)
  obtain ⟨compilation, hcompile⟩ := (exists_compile_iff (by decide +kernel)).mpr hplayable
  have hfragments : compilePatterns (fun _ step ↦ step.sound) (Song.new "a" 0).info.tuning
      (Song.new "a" 0).patterns = .ok compilation.fragments := by
    show (compile (fun _ step ↦ step.sound) 0 (Song.new "a" 0).patterns).map _ = _
    rw [hcompile]
    rfl
  exact ⟨_, assemble_of_fragments hpasses hfragments⟩

/-- A title that starts with a semicolon changes no line of code. -/
theorem codeLines_assemble_renamed :
    ∃ text other,
      assemble (fun _ step ↦ step.sound) (fun _ ↦ "now") Registry.builtIn.renderer "asm"
        (Song.new "a" 0) = .ok text ∧
      assemble (fun _ step ↦ step.sound) (fun _ ↦ "now") Registry.builtIn.renderer "asm"
        ((Song.new "a" 0).withCredits "; x" "y") = .ok other ∧
      codeLines other = codeLines text := by
  obtain ⟨text, htext⟩ := exists_assemble_new
  obtain ⟨shared, -, hothers⟩ := codeLines_assemble_withCredits htext
  obtain ⟨other, hother, -, -, hcode⟩ := hothers "; x" "y"
  exact ⟨text, other, htext, hother,
    hcode (by decide) (by decide) (by decide) (by decide)⟩

/-- A title with a line break puts code into the source of a song without errors. -/
theorem codeLines_assemble_ne_of_title :
    (Song.new "a" 0).validate.errors = [] ∧
    ((Song.new "a" 0).withCredits "x\n    byte 1" "").validate.errors = [] ∧
    ∃ text other,
      assemble (fun _ step ↦ step.sound) (fun _ ↦ "now") Registry.builtIn.renderer "asm"
        (Song.new "a" 0) = .ok text ∧
      assemble (fun _ step ↦ step.sound) (fun _ ↦ "now") Registry.builtIn.renderer "asm"
        ((Song.new "a" 0).withCredits "x\n    byte 1" "") = .ok other ∧
      codeLines other = "    byte 1" :: codeLines text ∧ codeLines other ≠ codeLines text := by
  obtain ⟨text, htext⟩ := exists_assemble_new
  obtain ⟨shared, hshared⟩ := exists_assemble_withCredits htext
  obtain ⟨same, hsame, hcode⟩ := hshared "" ""
  have hnew : (Song.new "a" 0).withCredits "" "" = Song.new "a" 0 := rfl
  rw [hnew, htext, Except.ok.injEq] at hsame
  obtain ⟨other, hother, hstray⟩ := hshared "x\n    byte 1" ""
  have hheading : ((Song.new "a" 0).withCredits "x\n    byte 1" "").headingCode (fun _ ↦ "now") =
      ["    byte 1"] := by decide +kernel
  have hempty : ((Song.new "a" 0).withCredits "" "").headingCode (fun _ ↦ "now") = [] := by
    decide +kernel
  have hlines : codeLines other = "    byte 1" :: codeLines text := by
    rw [hstray, hsame, hcode, hheading, hempty]
    rfl
  refine ⟨by decide +kernel, by decide +kernel, text, other, htext, hother, hlines, ?_⟩
  rw [hlines]
  exact List.cons_ne_self _ _

end StepSequencer
