import StepSequencer.Proofs.Library.Holdings
import StepSequencer.Proofs.Storage.Contents

/-!
# What a call leaves behind when writing fails

A call changes the songs in memory before it writes them, so the library in memory is the same
whether writing works or not (`saveOn_eq`, `deleteOn_eq`). This is so on every disk, whatever a
write that fails leaves of the file: the theorem `failed_calls_keep_change` says of the files only
that the folder could not be made or the file not be written. The songs in memory are then ahead
of those in the file, which may be as it was (`blockedFiles`) or lost (`fullDisk`).

On a tree of files all that writing a library can do is known (`persist_cases`).
-/

set_option autoImplicit false
set_option relaxedAutoImplicit false

namespace StepSequencer.Library

/-- A library could not be written: its folder could not be made, or its file not be written. -/
inductive Unwritable {Files : Type} (disk : Disk Files) (library : Library) (files : Files) :
    LibraryError → Prop where
  | folder {e : FileError} (h : (disk.makeFolders files library.folder).1 = .error e) :
      Unwritable disk library files (.unreachable library.folder e)
  | file {e : FileError} (hfolder : (disk.makeFolders files library.folder).1 = .ok ())
      (h : (disk.writeText (disk.makeFolders files library.folder).2 library.path
        library.text).1 = .error e) :
      Unwritable disk library files (.unreachable library.path e)

/-- Writing a library fails only where the disk does. -/
theorem unwritable_of_persistOn {Files : Type} {disk : Disk Files} {library : Library}
    {files : Files} {e : LibraryError} (h : (library.persistOn disk files).1 = .error e) :
    Unwritable disk library files e := by
  unfold persistOn at h
  dsimp only at h
  split at h
  · rename_i fault made hmade
    have hfolder : disk.makeFolders files library.folder = (.error fault, made) := hmade
    cases h
    exact .folder (by rw [hfolder])
  · rename_i made hmade
    have hfolder : disk.makeFolders files library.folder = (.ok (), made) := hmade
    split at h
    · rename_i fault left hwrite
      cases h
      exact .file (by rw [hfolder]) (by rw [hfolder, hwrite])
    · cases h

/-- All that writing a library to a tree of files can do: it fails with the folders that were
made, or it makes all folders and writes the file. -/
theorem persist_cases (library : Library) (files : FileTree) :
    (∃ e, library.persist files = (.error e, (files.makeFolders library.folder).2)) ∨
    ∃ next, library.persist files = (.ok (), next) ∧
      (files.makeFolders library.folder).2.writeText library.path library.text = .ok next := by
  unfold persist persistOn FileTree.disk
  dsimp only
  rw [show (Path.parent? library.path).getD "" = library.folder from rfl]
  rcases files.makeFolders library.folder with ⟨e | ⟨⟩, made⟩
  · exact Or.inl ⟨_, rfl⟩
  · dsimp only
    rcases hwrite : made.writeText library.path library.text with e | next
    · exact Or.inl ⟨_, rfl⟩
    · exact Or.inr ⟨next, rfl, rfl⟩

/-! ### Failed calls -/

/-- A save that failed: the song is in memory as after any other save. -/
theorem saveOn_eq_error {Files : Type} {disk : Disk Files} {library : Library} {files : Files}
    {song : Song} {now : Int64} {suffix : Nat} {e : LibraryError}
    (h : (library.saveOn disk files song now suffix).result = .error e) :
    Unwritable disk (library.saveOn disk files song now suffix).library files e ∧
      Saved library (idFor song now suffix) { song with
          id := some (idFor song now suffix), info := { song.info with modified := now } }
        (library.saveOn disk files song now suffix).library := by
  rw [saveOn_eq] at h ⊢
  dsimp only at h ⊢
  exact ⟨unwritable_of_persistOn (eq_error_of_map_eq_error h), saved_put library _ song now⟩

/-- A deletion that failed: there was a song to delete, and it is gone from memory. -/
theorem deleteOn_eq_error {Files : Type} {disk : Disk Files} {library : Library} {files : Files}
    {id : String} {e : LibraryError} (h : (library.deleteOn disk files id).result = .error e) :
    Unwritable disk (library.deleteOn disk files id).library files e ∧
      Deleted library id true (library.deleteOn disk files id).library := by
  rw [deleteOn_eq] at h ⊢
  by_cases hany : library.songs.any (named id) = true
  · rw [if_pos hany] at h ⊢
    dsimp only at h ⊢
    exact ⟨unwritable_of_persistOn (eq_error_of_map_eq_error h), deleted_erase hany⟩
  · rw [if_neg hany] at h
    cases h

/-- On every disk a call fails only because the folder of the library could not be made or its
file not be written, and then the songs in memory have changed as in a call that succeeds. -/
theorem failed_calls_keep_change {Files : Type} (disk : Disk Files) (library : Library)
    (files : Files) :
    (∀ song now suffix e, (library.saveOn disk files song now suffix).result = .error e →
      Unwritable disk (library.saveOn disk files song now suffix).library files e ∧
      Saved library (song.id.getD (songId now suffix)) { song with
          id := some (song.id.getD (songId now suffix))
          info := { song.info with modified := now } }
        (library.saveOn disk files song now suffix).library) ∧
    (∀ id e, (library.deleteOn disk files id).result = .error e →
      Unwritable disk (library.deleteOn disk files id).library files e ∧
      Deleted library id true (library.deleteOn disk files id).library) :=
  ⟨fun _ _ _ _ h ↦ saveOn_eq_error h, fun _ _ h ↦ deleteOn_eq_error h⟩

/-- A file stands where the folder of a library should be made. -/
def blockedFiles : FileTree :=
  { entries := [(["f"], .file "[]".toUTF8)] }

/-- A library that can be opened, as an empty one, but not be written. -/
def blockedLibrary : Library :=
  ⟨"f/x.json", []⟩

/-- That library after a save, which failed. -/
def blockedSave : Change String :=
  blockedLibrary.save blockedFiles (Song.new "a" 1) 5000 firstSuffix

/-- Neither call leaves the songs as they were, although both fail. -/
theorem songs_ne_of_failed_calls :
    load blockedFiles "f/x.json" = .ok blockedLibrary ∧
    blockedSave.result = .error (.unreachable "f" .present) ∧
    blockedSave.library.songs ≠ blockedLibrary.songs ∧
    (blockedSave.library.delete blockedFiles "a").result = .error (.unreachable "f" .present) ∧
    (blockedSave.library.delete blockedFiles "a").library.songs ≠ blockedSave.library.songs := by
  refine ⟨rfl, rfl, ?_, rfl, ?_⟩
  · intro hsongs
    cases hsongs
  · intro hsongs
    cases hsongs

/-- A disk without room: a file can be opened, which empties it, but nothing be written to it. -/
def fullDisk : Disk FileTree where
  makeFolders := FileTree.makeFolders
  writeText tree path _ :=
    match tree.writeText path "" with
    | .error e => (.error e, tree)
    | .ok next => (.error (.other "No space left on device (os error 28)"), next)

/-- A library of one song in a file. -/
def fullLibrary : Library :=
  ⟨"x.json", [Song.new "a" 1]⟩

/-- The file of that library. -/
def fullFiles : FileTree :=
  { entries := [(["x.json"], .file fullLibrary.text.toUTF8)] }

/-- That library after a save, which failed. -/
def fullSave : Change String :=
  fullLibrary.saveOn fullDisk fullFiles (Song.new "b" 2) 5000 firstSuffix

/-- On a disk that refuses to make the folder and on one that empties the file both calls fail, and
the songs in memory are those after calls that succeed. -/
theorem keep_change_blocked :
    (blockedLibrary.saveOn FileTree.disk blockedFiles (Song.new "a" 1) 5000 firstSuffix).result =
      .error (.unreachable "f" .present) ∧
    blockedSave.library.listed (some "a") = [{ Song.new "a" 1 with
      info := { (Song.new "a" 1).info with modified := 5000 } }] ∧
    fullSave.result =
      .error (.unreachable "x.json" (.other "No space left on device (os error 28)")) ∧
    fullSave.files.readText "x.json" = .ok "" ∧
    fullSave.library.listed (some "a") = [Song.new "a" 1] ∧
    (fullSave.library.deleteOn fullDisk fullSave.files "a").result =
      .error (.unreachable "x.json" (.other "No space left on device (os error 28)")) ∧
    (fullSave.library.deleteOn fullDisk fullSave.files "a").library.listed (some "a") = [] := by
  have hblocked : (blockedLibrary.saveOn FileTree.disk blockedFiles (Song.new "a" 1) 5000
      firstSuffix).result = .error (.unreachable "f" .present) := rfl
  have hfull : fullSave.result =
      .error (.unreachable "x.json" (.other "No space left on device (os error 28)")) := rfl
  have hdelete : (fullSave.library.deleteOn fullDisk fullSave.files "a").result =
      .error (.unreachable "x.json" (.other "No space left on device (os error 28)")) := rfl
  obtain ⟨-, hfirst⟩ :=
    (failed_calls_keep_change FileTree.disk blockedLibrary blockedFiles).1 _ _ _ _ hblocked
  obtain ⟨-, hsaved⟩ := (failed_calls_keep_change fullDisk fullLibrary fullFiles).1 _ _ _ _ hfull
  obtain ⟨-, hdeleted⟩ :=
    (failed_calls_keep_change fullDisk fullSave.library fullSave.files).2 _ _ hdelete
  have hlisted : fullSave.library.listed (some "a") = [Song.new "a" 1] :=
    hsaved.others (some "a") (by decide)
  refine ⟨hblocked, hfirst.own, hfull, rfl, hlisted, hdelete, ?_⟩
  rw [hdeleted.own, hlisted]
  rfl

end StepSequencer.Library
