import StepSequencer.Library
import StepSequencer.Proofs.Outcomes
import StepSequencer.Proofs.Song.Layouts
import StepSequencer.Proofs.Storage.LastWrite

/-!
# A library is found again as it was left

`Run` describes the life of a library: it is opened at a path, from a file or from nothing, and
then changed by calls that all succeed. The text of a library is read back as the same songs in
the same order (`ofText_text`), so after every call opening the path again gives the library in
memory. A call that finds nothing to delete does not touch the files.
-/

set_option autoImplicit false
set_option relaxedAutoImplicit false

namespace StepSequencer.Library

open Json (Value)

/-! ### Runs -/

/-- A library that was opened at a path as some library and then changed by calls that all
succeeded, and the files after the last of them. -/
inductive Run (path : String) (opened : Library) : Library → FileTree → Prop where
  | opened {files : FileTree} (h : load files path = .ok opened) : Run path opened opened files
  | saved {library : Library} {files : FileTree} {song : Song} {now : Int64} {suffix : Nat}
      {id : String} (before : Run path opened library files)
      (h : (library.save files song now suffix).result = .ok id) :
      Run path opened (library.save files song now suffix).library
        (library.save files song now suffix).files
  | deleted {library : Library} {files : FileTree} {id : String} {found : Bool}
      (before : Run path opened library files)
      (h : (library.delete files id).result = .ok found) :
      Run path opened (library.delete files id).library (library.delete files id).files

/-! ### What calls do -/

/-- What saving on a disk does, whether writing works or not. -/
theorem saveOn_eq {Files : Type} (disk : Disk Files) (library : Library) (files : Files)
    (song : Song) (now : Int64) (suffix : Nat) :
    library.saveOn disk files song now suffix =
      ⟨((library.put (idFor song now suffix) song now).persistOn disk files).1.map
          fun _ ↦ idFor song now suffix,
        library.put (idFor song now suffix) song now,
        ((library.put (idFor song now suffix) song now).persistOn disk files).2⟩ := by
  unfold saveOn
  dsimp only
  split
  · rename_i hpersist
    rw [hpersist]
    rfl
  · rename_i hpersist
    rw [hpersist]
    rfl

/-- What deleting on a disk does, whether writing works or not. -/
theorem deleteOn_eq {Files : Type} (disk : Disk Files) (library : Library) (files : Files)
    (id : String) :
    library.deleteOn disk files id =
      if library.songs.any (named id) then
        ⟨((library.erase id).persistOn disk files).1.map fun _ ↦ true, library.erase id,
          ((library.erase id).persistOn disk files).2⟩
      else ⟨.ok false, library, files⟩ := by
  unfold deleteOn
  split
  · dsimp only
    split
    · rename_i hpersist
      rw [hpersist]
      rfl
    · rename_i hpersist
      rw [hpersist]
      rfl
  · rfl

/-- What saving in a tree of files does, whether writing works or not. -/
theorem save_eq (library : Library) (files : FileTree) (song : Song) (now : Int64)
    (suffix : Nat) :
    library.save files song now suffix =
      ⟨((library.put (idFor song now suffix) song now).persist files).1.map
          fun _ ↦ idFor song now suffix,
        library.put (idFor song now suffix) song now,
        ((library.put (idFor song now suffix) song now).persist files).2⟩ :=
  saveOn_eq FileTree.disk library files song now suffix

/-- What deleting in a tree of files does, whether writing works or not. -/
theorem delete_eq (library : Library) (files : FileTree) (id : String) :
    library.delete files id =
      if library.songs.any (named id) then
        ⟨((library.erase id).persist files).1.map fun _ ↦ true, library.erase id,
          ((library.erase id).persist files).2⟩
      else ⟨.ok false, library, files⟩ :=
  deleteOn_eq FileTree.disk library files id

/-- A save that succeeds has put the song into the library and written the library. -/
theorem save_eq_ok {library : Library} {files : FileTree} {song : Song} {now : Int64}
    {suffix : Nat} {id : String} (h : (library.save files song now suffix).result = .ok id) :
    id = idFor song now suffix ∧
      (library.save files song now suffix).library = library.put id song now ∧
        (library.put id song now).persist files =
          (.ok (), (library.save files song now suffix).files) := by
  rw [save_eq] at h ⊢
  dsimp only at h ⊢
  obtain ⟨_, hpersist, rfl⟩ := eq_ok_of_map_eq_ok h
  exact ⟨rfl, rfl, Prod.ext hpersist rfl⟩

/-- A deletion that succeeds has removed a song and written the library, or has done nothing. -/
theorem delete_eq_ok {library : Library} {files : FileTree} {id : String} {found : Bool}
    (h : (library.delete files id).result = .ok found) :
    (found = true ∧ library.songs.any (named id) = true ∧
      (library.delete files id).library = library.erase id ∧
        (library.erase id).persist files = (.ok (), (library.delete files id).files)) ∨
    (found = false ∧ library.songs.any (named id) = false ∧
      (library.delete files id).library = library ∧
        (library.delete files id).files = files) := by
  rw [delete_eq] at h ⊢
  by_cases hany : library.songs.any (named id) = true
  · rw [if_pos hany] at h ⊢
    dsimp only at h ⊢
    obtain ⟨_, hpersist, rfl⟩ := eq_ok_of_map_eq_ok h
    exact Or.inl ⟨rfl, hany, rfl, Prod.ext hpersist rfl⟩
  · rw [if_neg hany] at h ⊢
    cases h
    exact Or.inr ⟨rfl, by simpa using hany, rfl, rfl⟩

/-! ### The text of a library -/

/-- Encoded songs are read back. -/
theorem decodeSongs_map (position : Nat) (songs : List Song) :
    decodeSongs position (songs.map fun song ↦ song.encode.canonical) = .ok songs := by
  induction songs generalizing position with
  | nil => rfl
  | cons song rest ih =>
    rw [List.map_cons, decodeSongs, song.ofValue_canonical_encode]
    simp only [ih (position + 1)]

theorem ofText_of_parse {text : String} {values : List Value}
    (h : Json.parse text = .ok (.array values)) (path : String) :
    ofText path text = decodeSongs 0 values := by
  unfold ofText
  rw [h]

/-- The text of a library is read as its songs. -/
theorem ofText_text (library : Library) (path : String) :
    ofText path library.text = .ok library.songs := by
  have hparse := Json.parse_pretty
    (within_array_map (fun song : Song ↦ song.within_encode 119) library.songs)
  rw [canonical_array_map] at hparse
  rw [text, ofText_of_parse hparse]
  exact decodeSongs_map 0 library.songs

/-! ### Opening again -/

theorem path_of_load {files : FileTree} {path : String} {library : Library}
    (h : load files path = .ok library) : library.path = path := by
  unfold load at h
  split at h
  · split at h
    · cases h
    · split at h
      · cases h
      · cases h
        rfl
  · cases h
    rfl

/-- A library is opened as the songs in the text that was written to its path last. -/
theorem load_of_writeText {files next : FileTree} {path text : String} {songs : List Song}
    (hwrite : files.writeText path text = .ok next) (hsongs : ofText path text = .ok songs) :
    load next path = .ok ⟨path, songs⟩ := by
  unfold load
  rw [if_pos (FileTree.has_of_writeText hwrite), FileTree.readText_of_writeText hwrite]
  simp only [hsongs]

/-- The folder that a library is written to. -/
def folder (library : Library) : String :=
  (Path.parent? library.path).getD ""

/-- A library is written when its folder can be made and then its file be written. -/
theorem persist_eq_ok_iff {library : Library} {files next : FileTree} :
    library.persist files = (.ok (), next) ↔
      ∃ made, files.makeFolders library.folder = (.ok (), made) ∧
        made.writeText library.path library.text = .ok next := by
  unfold persist persistOn FileTree.disk
  dsimp only
  rw [show (Path.parent? library.path).getD "" = library.folder from rfl]
  rcases files.makeFolders library.folder with ⟨e | ⟨⟩, made⟩
  · simp
  · rcases hwrite : made.writeText library.path library.text with e | last
    · simp [hwrite]
    · simp [hwrite]

/-- A library that was written is found again at its path. -/
theorem load_of_persist {library : Library} {files next : FileTree}
    (h : library.persist files = (.ok (), next)) : load next library.path = .ok library := by
  obtain ⟨made, -, hwrite⟩ := persist_eq_ok_iff.mp h
  exact load_of_writeText hwrite (ofText_text library library.path)

/-- After a save the file holds the library in memory. -/
theorem load_of_save {library : Library} {files : FileTree} {song : Song} {now : Int64}
    {suffix : Nat} {id : String} (h : (library.save files song now suffix).result = .ok id) :
    load (library.save files song now suffix).files library.path =
      .ok (library.save files song now suffix).library := by
  obtain ⟨-, hlibrary, hpersist⟩ := save_eq_ok h
  rw [hlibrary]
  exact load_of_persist hpersist

/-- After a deletion the file holds the library in memory, also when there was nothing to delete. -/
theorem load_of_delete {library : Library} {files : FileTree} {id : String} {found : Bool}
    (hbefore : load files library.path = .ok library)
    (h : (library.delete files id).result = .ok found) :
    load (library.delete files id).files library.path = .ok (library.delete files id).library := by
  obtain ⟨-, -, hlibrary, hpersist⟩ | ⟨-, -, hlibrary, hfiles⟩ := delete_eq_ok h
  · rw [hlibrary]
    exact load_of_persist hpersist
  · rw [hlibrary, hfiles]
    exact hbefore

/-- After every call of a run, opening the path again gives the library in memory, and deleting
what is not there leaves the files as they are. -/
theorem Run.load_eq {path : String} {opened library : Library} {files : FileTree}
    (h : Run path opened library files) :
    load files path = .ok library ∧
      ∀ id, (library.delete files id).result = .ok false →
        (library.delete files id).files = files := by
  constructor
  · induction h with
    | opened hopen => exact hopen
    | saved before hsave ih =>
      have hpath := path_of_load ih
      subst hpath
      exact load_of_save hsave
    | deleted before hdelete ih =>
      have hpath := path_of_load ih
      subst hpath
      exact load_of_delete ih hdelete
  · intro id hdelete
    obtain ⟨htrue, -⟩ | ⟨-, -, -, hfiles⟩ := delete_eq_ok hdelete
    · cases htrue
    · exact hfiles

/-- A library of one song. -/
def mixedLibrary : Library :=
  ⟨"songs.json", [mixedSong]⟩

/-- A text of that library, in which some channels are bare. -/
def mixedText : String :=
  (Value.array ([mixedSong].map fun song ↦ song.written fun _ ↦ mixedForm)).compact

theorem ofText_mixedText : ofText "songs.json" mixedText = .ok mixedLibrary.songs := by
  have hparse := Json.parse_compact (within_array_map
    (fun song : Song ↦ song.within_written (fun _ ↦ mixedForm) 119) [mixedSong])
  rw [canonical_array_map] at hparse
  rw [mixedText, ofText_of_parse hparse, List.map_singleton, decodeSongs,
    Song.ofValue_written (admits_mixedSong mixedForm)]
  rfl

/-- A library in an older layout is written in the current one by a save, and opened again as it is
in memory. -/
theorem load_eq_mixedLibrary : ∃ library files, Run "songs.json" mixedLibrary library files ∧
    library.songs.length = 2 ∧ load files "songs.json" = .ok library := by
  have hwrite : FileTree.writeText {} "songs.json" mixedText =
      .ok { entries := [(["songs.json"], .file mixedText.toUTF8)] } := rfl
  have hsave : (mixedLibrary.save { entries := [(["songs.json"], .file mixedText.toUTF8)] }
      (Song.new "a" 5) 7 0x10000).result = .ok "a" := rfl
  have hrun := Run.saved (Run.opened (load_of_writeText hwrite ofText_mixedText)) hsave
  exact ⟨_, _, hrun, rfl, hrun.load_eq.1⟩

end StepSequencer.Library
