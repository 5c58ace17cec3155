import StepSequencer.Command.Run
import StepSequencer.Proofs.Assembly.Validity
import StepSequencer.Proofs.Library.FailedWrites

/-!
# What commands do to files

`Effect` lists all that a command can do to the files: nothing, writing a library that it has
opened and edited, or writing the text of a song that it has compiled (`effect_runCommand`).
`Footprint` says where files may differ after a command, and follows from the effect alone. A
library that cannot be read is never opened, so no run of commands changes it.

A path through a folder that is not there leads to no file, so the library of such a path is a
missing one, whatever the path leads to when the folder has been made.
-/

set_option autoImplicit false
set_option relaxedAutoImplicit false

namespace StepSequencer

open Json (Value)

/-! ### Libraries that cannot be read -/

namespace Library

/-- The content of a library that cannot be read: it is no text, no JSON or no array, or it has a
song that is malformed. -/
inductive Damaged (content : ByteArray) : Prop where
  | notText (h : String.fromUTF8? content = none)
  | notJson {text : String} {fault : Json.Fault} (htext : String.fromUTF8? content = some text)
      (h : Json.parse text = .error fault)
  | notArray {text : String} {value : Value} (htext : String.fromUTF8? content = some text)
      (hparse : Json.parse text = .ok value) (h : ∀ values, value ≠ .array values)
  | malformed {text : String} {values : List Value} {value : Value} {e : SchemaError}
      (htext : String.fromUTF8? content = some text)
      (hparse : Json.parse text = .ok (.array values)) (hmem : value ∈ values)
      (h : Song.ofValue value = .error e)

/-- One malformed song is enough for a list of songs not to be read. -/
theorem exists_decodeSongs_eq_error {values : List Value} {value : Value} {e : SchemaError}
    (hmem : value ∈ values) (h : Song.ofValue value = .error e) (position : Nat) :
    ∃ fault, decodeSongs position values = .error fault := by
  induction values generalizing position with
  | nil => cases hmem
  | cons first rest ih =>
    unfold decodeSongs
    split
    · exact ⟨_, rfl⟩
    · rename_i song hsong
      have hrest : value ∈ rest := by
        rcases List.mem_cons.mp hmem with rfl | hrest
        · rw [h] at hsong
          cases hsong
        · exact hrest
      obtain ⟨fault, hfault⟩ := ih hrest (position + 1)
      rw [hfault]
      exact ⟨fault, rfl⟩

/-- A damaged library cannot be opened. -/
theorem Damaged.exists_load_eq_error {content : ByteArray} (h : Damaged content)
    {files : FileTree} {path : String} (hcontent : files.content? path = some content) :
    ∃ e, load files path = .error e := by
  have hfind := FileTree.find_of_content? hcontent
  have hhas : files.has path = true := by
    unfold FileTree.has
    rw [hfind]
    rfl
  unfold load FileTree.readText
  rw [if_pos hhas, hfind]
  dsimp only
  cases h with
  | notText h =>
    rw [h]
    exact ⟨_, rfl⟩
  | notJson htext h =>
    rw [htext]
    dsimp only [ofText]
    rw [h]
    exact ⟨_, rfl⟩
  | notArray htext hparse h =>
    rw [htext]
    dsimp only [ofText]
    rw [hparse]
    split
    · exact ⟨_, rfl⟩
    · rename_i songs hsongs
      split at hsongs
      · cases hsongs
      · rename_i values heq
        cases heq
        exact absurd rfl (h values)
      · cases hsongs
  | malformed htext hparse hmem h =>
    obtain ⟨fault, hfault⟩ := exists_decodeSongs_eq_error hmem h 0
    rw [htext]
    dsimp only
    rw [ofText_of_parse hparse, hfault]
    exact ⟨fault, rfl⟩

end Library

/-! ### Effects -/

/-- What a command makes of a library that it has opened. -/
inductive Command.Edits (host : Host) (opened : Library) : Command → Library → Prop where
  | new (title author : Option String) (tempo : Option UInt8) :
      Edits host opened (.new title author tempo)
        (opened.put (songId host.now host.suffix) (freshSong host title author tempo) host.now)
  | delete {id : String} (h : opened.songs.any (Library.named id) = true) :
      Edits host opened (.delete id) (opened.erase id)

/-- All that goes well before the text of a song is there. -/
inductive Compiles (files : FileTree) (library : String) (id file : Option String)
    (options : CompileOptions) : String → Prop where
  | intro {source : SongSource} {song : Song} {notes : NoteTable} {registry : Registry Template}
      {fragments : Fragments} {text : String}
      (hsource : SongSource.ofArguments library id file = .ok source)
      (hsong : source.load files = .ok song)
      (hnotes : NoteTable.load files options.notes = .ok notes)
      (htemplates : (loadTemplates files options.folder).outcome = .ok registry)
      (hvalid : song.validate.errors = [])
      (hfragments : compilePatterns notes.encode song.info.tuning song.patterns = .ok fragments)
      (hrender : registry.renderer options.template
        (Document.ofSong Calendar.TimePattern.header.format song fragments).encode.canonical =
          .ok text) :
      Compiles files library id file options text

/-- All that a command can do to the files. -/
inductive Effect (host : Host) (files : FileTree) (library : String) :
    Command → FileTree → Prop where
  | unchanged (command : Command) : Effect host files library command files
  | edited {command : Command} {opened edited : Library}
      (hload : Library.load files library = .ok opened) (h : command.Edits host opened edited) :
      Effect host files library command (edited.persist files).2
  | written {id file : Option String} {options : CompileOptions} {output text : String}
      {next : FileTree} (houtput : options.output = some output)
      (h : Compiles files library id file options text)
      (hwrite : files.writeText output text = .ok next) :
      Effect host files library (.compile id file options) next

section Commands

variable (host : Host) (ink : Ink) (files : FileTree) (library : String)

/-- A new song is saved to a library that was opened, or nothing happens. -/
theorem effect_runNew (title author : Option String) (tempo : Option UInt8) :
    Effect host files library (.new title author tempo)
      (runNew host ink files library title author tempo).files := by
  unfold runNew
  dsimp only
  split
  · exact .unchanged _
  · rename_i opened hload
    have hedited : Effect host files library (.new title author tempo)
        (opened.save files (freshSong host title author tempo) host.now host.suffix).files := by
      rw [Library.save_eq]
      dsimp only
      exact .edited hload (.new title author tempo)
    split
    · rw [Outcome.files_failure]
      exact hedited
    · rw [Outcome.files_success]
      exact hedited

/-- A song is deleted from a library that was opened and has it, or nothing happens. -/
theorem effect_runDelete (id : String) :
    Effect host files library (.delete id) (runDelete ink files library id).files := by
  unfold runDelete
  dsimp only
  split
  · exact .unchanged _
  · rename_i opened hload
    have hedited : Effect host files library (.delete id) (opened.delete files id).files := by
      rw [Library.delete_eq]
      by_cases hany : opened.songs.any (Library.named id) = true
      · rw [if_pos hany]
        dsimp only
        exact .edited hload (.delete hany)
      · rw [if_neg hany]
        exact .unchanged _
    split
    · rw [Outcome.files_failure]
      exact hedited
    · rw [Outcome.files_success]
      exact hedited
    · exact hedited

variable {host ink files library}

/-- A compiled song is written to its output, or printed. -/
theorem effect_deliver {id file : Option String} {options : CompileOptions} {text : String}
    (h : Compiles files library id file options text) (events : List Event) (song : Song) :
    Effect host files library (.compile id file options)
      (deliver ink files events song text options.output).files := by
  unfold deliver
  split
  · exact .unchanged _
  · rename_i output houtput
    split
    · exact .unchanged _
    · rename_i next hwrite
      exact .written houtput h hwrite

/-- A song is delivered only if it was compiled and rendered. -/
theorem effect_compileWith {id file : Option String} {options : CompileOptions}
    {source : SongSource} {song : Song} {notes : NoteTable} {registry : Registry Template}
    (hsource : SongSource.ofArguments library id file = .ok source)
    (hsong : source.load files = .ok song) (hnotes : NoteTable.load files options.notes = .ok notes)
    (htemplates : (loadTemplates files options.folder).outcome = .ok registry)
    (events : List Event) :
    Effect host files library (.compile id file options)
      (compileWith ink files events source options song notes registry).files := by
  unfold compileWith
  dsimp only
  split
  · exact .unchanged _
  · exact .unchanged _
  · rename_i text htext
    obtain ⟨document, hdocument, hrender⟩ := assemble_eq_ok htext
    obtain ⟨hvalid, fragments, hfragments, rfl⟩ := buildDocument_eq_ok_iff.mp hdocument
    exact effect_deliver ⟨hsource, hsong, hnotes, htemplates, hvalid, hfragments, hrender⟩ _ song

/-- Compiling writes a song only if it, the notes and the templates were loaded. -/
theorem effect_runCompile {id file : Option String} {source : SongSource}
    (hsource : SongSource.ofArguments library id file = .ok source) (options : CompileOptions) :
    Effect host files library (.compile id file options)
      (runCompile ink files source options).files := by
  unfold runCompile
  dsimp only
  split
  · exact .unchanged _
  · rename_i song hsong
    split
    · exact .unchanged _
    · rename_i notes hnotes
      split
      · exact .unchanged _
      · rename_i registry htemplates
        exact effect_compileWith hsource hsong hnotes htemplates _

theorem files_runList : (runList ink files library).files = files := by
  unfold runList
  dsimp only
  split
  · rfl
  · rfl

theorem files_runDisplay (id : String) : (runDisplay ink files library id).files = files := by
  unfold runDisplay
  dsimp only
  split
  · rfl
  · rfl

theorem files_runValidate (source : SongSource) :
    (runValidate ink files source).files = files := by
  unfold runValidate
  dsimp only
  split
  · rfl
  · rfl

variable (host ink files library)

/-- Every command has one of the effects. -/
theorem effect_runCommand (command : Command) :
    Effect host files library command (runCommand host ink files library command).files := by
  cases command with
  | new title author tempo => exact effect_runNew host ink files library title author tempo
  | list =>
    rw [runCommand, files_runList]
    exact .unchanged _
  | display id =>
    rw [runCommand, files_runDisplay]
    exact .unchanged _
  | delete id => exact effect_runDelete host ink files library id
  | validate id file =>
    rw [runCommand, withSource]
    split
    · exact .unchanged _
    · rw [files_runValidate]
      exact .unchanged _
  | compile id file options =>
    rw [runCommand, withSource]
    split
    · exact .unchanged _
    · rename_i source hsource
      exact effect_runCompile hsource options

end Commands

/-! ### Footprints -/

/-- A command whose output, if it has one, goes to another place than the library. -/
def Command.Spares (files : FileTree) (library : String) : Command → Prop
  | .compile _ _ options => ∀ output, options.output = some output → ¬ files.Meet output library
  | _ => True

/-- A command that saves a song, or that deletes one which an opened library has. -/
def Command.Changes (opened : Library) : Command → Prop
  | .new _ _ _ => True
  | .delete id => ∃ song ∈ opened.songs, song.id = some id
  | _ => False

/-- When the file at a place may have changed in a command: compiling writes its text to its output,
and other commands write a library that was opened. -/
def Command.Touches (files : FileTree) (library : String) (next : FileTree) (place : Location) :
    Command → Prop
  | .compile id file options => ∃ output text, options.output = some output ∧
      files.locate output = .ok place ∧ Compiles files library id file options text ∧
        next.fileAt? place = some text.toUTF8
  | command => next.locate library = .ok place ∧
      ∃ opened, Library.load files library = .ok opened ∧ command.Changes opened

/-- The files that a command may have changed. -/
structure Footprint (files : FileTree) (library : String) (command : Command)
    (next : FileTree) : Prop where
  content : command.Spares files library → next.content? library ≠ files.content? library →
    ∃ opened, Library.load files library = .ok opened ∧ command.Changes opened
  places : ∀ place, next.fileAt? place ≠ files.fileAt? place →
    command.Touches files library next place

/-- A command that edits a library changes it. -/
theorem Command.Edits.changes {host : Host} {opened edited : Library} {command : Command}
    (h : command.Edits host opened edited) : command.Changes opened := by
  cases h with
  | new title author tempo => trivial
  | delete h =>
    obtain ⟨song, hmem, hnamed⟩ := List.any_eq_true.mp h
    exact ⟨song, hmem, by simpa [Library.named] using hnamed⟩

/-- A library stays at its path when it is edited. -/
theorem Command.Edits.path_eq {host : Host} {opened edited : Library} {command : Command}
    (h : command.Edits host opened edited) : edited.path = opened.path := by
  cases h <;> rfl

/-- A command that edits a library touches the place where the library is. -/
theorem Command.Edits.touches {host : Host} {opened edited : Library} {command : Command}
    (h : command.Edits host opened edited) {files next : FileTree} {library : String}
    (hload : Library.load files library = .ok opened) {place : Location}
    (hplace : next.locate library = .ok place) : command.Touches files library next place := by
  have hchanges := h.changes
  cases h with
  | new title author tempo => exact ⟨hplace, opened, hload, hchanges⟩
  | delete h => exact ⟨hplace, opened, hload, hchanges⟩

/-- A write changes the file of its path only. -/
theorem FileTree.locate_of_fileAt?_ne {tree next : FileTree} {path : String} {content : ByteArray}
    (h : tree.write path content = .ok next) {place : Location}
    (hne : next.fileAt? place ≠ tree.fileAt? place) :
    tree.locate path = .ok place ∧ next.locate path = .ok place ∧
      next.fileAt? place = some content := by
  obtain ⟨target, hbefore, hafter, hnode, hothers⟩ := node?_of_write h
  by_cases hplace : place = target
  · subst hplace
    refine ⟨hbefore, hafter, ?_⟩
    unfold fileAt?
    rw [hnode]
  · refine absurd ?_ hne
    unfold fileAt?
    rw [hothers place hplace]

/-- Writing a library changes no other file than its own. -/
theorem Library.locate_of_persist {library : Library} {files : FileTree} {place : Location}
    (h : (library.persist files).2.fileAt? place ≠ files.fileAt? place) :
    (library.persist files).2.locate library.path = .ok place := by
  rcases library.persist_cases files with ⟨e, hpersist⟩ | ⟨next, hpersist, hwrite⟩
  · rw [hpersist] at h
    exact absurd (FileTree.fileAt?_makeFolders files library.folder place) h
  · rw [hpersist] at h ⊢
    rw [← FileTree.fileAt?_makeFolders files library.folder place] at h
    exact (FileTree.locate_of_fileAt?_ne hwrite h).2.1

/-- An effect stays within the footprint: files differ only at the place of a library that was
opened and edited, or at the output of a song that was compiled. -/
theorem Effect.footprint {host : Host} {files next : FileTree} {library : String}
    {command : Command} (h : Effect host files library command next) :
    Footprint files library command next := by
  cases h with
  | unchanged command => exact ⟨fun _ hne ↦ absurd rfl hne, fun _ hne ↦ absurd rfl hne⟩
  | edited hload h =>
    refine ⟨fun _ _ ↦ ⟨_, hload, h.changes⟩, fun place hne ↦ h.touches hload ?_⟩
    rw [← Library.path_of_load hload, ← h.path_eq]
    exact Library.locate_of_persist hne
  | written houtput h hwrite =>
    refine ⟨fun hspares hne ↦ ?_, fun place hne ↦ ?_⟩
    · exact absurd (FileTree.content?_of_write hwrite (hspares _ houtput)) hne
    · obtain ⟨hplace, -, hcontent⟩ := FileTree.locate_of_fileAt?_ne hwrite hne
      exact ⟨_, _, houtput, hplace, h, hcontent⟩

/-! ### Runs -/

/-- Commands with one library, one after the other, and the files before and after them. -/
inductive CommandRun (library : String) (start : FileTree) : FileTree → Prop where
  | start : CommandRun library start start
  | step {files : FileTree} (before : CommandRun library start files) (host : Host) (ink : Ink)
      (command : Command) (hspares : command.Spares files library) :
      CommandRun library start (runCommand host ink files library command).files

/-- A library that cannot be read is the same after a command. -/
theorem Footprint.content?_of_damaged {files next : FileTree} {library : String}
    {command : Command} (h : Footprint files library command next)
    (hspares : command.Spares files library) {content : ByteArray}
    (hcontent : files.content? library = some content) (hdamaged : Library.Damaged content) :
    next.content? library = some content := by
  by_cases hsame : next.content? library = files.content? library
  · rw [hsame, hcontent]
  · obtain ⟨opened, hload, -⟩ := h.content hspares hsame
    obtain ⟨e, herror⟩ := hdamaged.exists_load_eq_error hcontent
    rw [hload] at herror
    cases herror

/-- A damaged library is never changed, whatever commands are run. -/
theorem CommandRun.content?_of_damaged {library : String} {start current : FileTree}
    (h : CommandRun library start current) {content : ByteArray}
    (hcontent : start.content? library = some content) (hdamaged : Library.Damaged content) :
    current.content? library = some content := by
  induction h with
  | start => exact hcontent
  | step before host ink command hspares ih =>
    exact (effect_runCommand host ink _ library command).footprint.content?_of_damaged
      hspares ih hdamaged

/-- Whatever the files are, a command changes the library only if it has opened it and has a song
to save or to delete, and it changes no file but the library and the output of a song that was
compiled. A library that cannot be read is the same after every run. -/
theorem runCommand_footprint (library : String) :
    (∀ host ink files command, Footprint files library command
      (runCommand host ink files library command).files) ∧
    ∀ start current, CommandRun library start current → ∀ content,
      start.content? library = some content → Library.Damaged content →
        current.content? library = some content :=
  ⟨fun host ink files command ↦ (effect_runCommand host ink files library command).footprint,
    fun _ _ hrun _ hcontent hdamaged ↦ hrun.content?_of_damaged hcontent hdamaged⟩

/-- A library with a number where a song should be. -/
def damagedFiles : FileTree :=
  { entries := [(["songs.json"], .file "[0]".toUTF8)] }

/-- The compilation of a song in that library to a file beside it. -/
def damagedCompile : Command :=
  .compile (some "a") none ⟨"notes.json", none, defaultTemplate, some "song.asm"⟩

/-- A host without variables. -/
def bareHost : Host where
  lookup := fun _ ↦ none
  now := 0
  suffix := firstSuffix

/-- A compilation and a new song leave a library that is no list of songs as it is. -/
theorem footprint_damagedFiles :
    damagedFiles.content? "songs.json" = some "[0]".toUTF8 ∧
    Library.Damaged "[0]".toUTF8 ∧
    damagedCompile.Spares damagedFiles "songs.json" ∧
    (runCommand bareHost ⟨false⟩
      (runCommand bareHost ⟨false⟩ damagedFiles "songs.json" damagedCompile).files
        "songs.json" (.new none none none)).files.content? "songs.json" = some "[0]".toUTF8 := by
  have hcontent : damagedFiles.content? "songs.json" = some "[0]".toUTF8 := rfl
  have htext : (Value.array ([0].map byteValue)).compact = "[0]" := rfl
  have hparse := Json.parse_compact (within_array_map (fun n ↦ within_byteValue n 126) [0])
  rw [htext] at hparse
  have hsong : Song.ofValue (byteValue 0) = .error _ := rfl
  have hdamaged : Library.Damaged "[0]".toUTF8 :=
    .malformed (FileTree.fromUTF8?_toUTF8 "[0]") hparse List.mem_cons_self hsong
  have hspares : damagedCompile.Spares damagedFiles "songs.json" := by
    rintro output houtput ⟨place, hplace, hlibrary⟩
    cases houtput
    have houtput : damagedFiles.locate "song.asm" = .ok ["song.asm"] := rfl
    have hsongs : damagedFiles.locate "songs.json" = .ok ["songs.json"] := rfl
    rw [houtput] at hplace
    rw [hsongs, ← hplace] at hlibrary
    exact absurd (Except.ok.inj hlibrary) (by decide)
  refine ⟨hcontent, hdamaged, hspares, ?_⟩
  have hcompiled := CommandRun.start.step bareHost ⟨false⟩ damagedCompile hspares
  have hnew := hcompiled.step bareHost ⟨false⟩ (.new none none none) trivial
  exact (runCommand_footprint "songs.json").2 _ _ hnew _ hcontent hdamaged

end StepSequencer
