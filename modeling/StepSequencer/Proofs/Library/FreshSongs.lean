import StepSequencer.Proofs.Calls
import StepSequencer.Proofs.Library.FailedWrites
import StepSequencer.Proofs.Library.Identifiers
import StepSequencer.Proofs.Storage.WrittenAgain

/-!
# Songs that get identifiers are all kept

A `Draft` is a song without an identifier, together with the instant and the number that its
identifier is made of. Drafts are saved one after the other into a library that was opened where
no file was. As long as no two of them share both the instant and the number, every save finds an
identifier that no stored song has, so it adds a song and takes none away (`songs_put_of_fresh`).

`Keeps` is what holds after every such run: the library has all songs in the order in which they
were saved, whether they could be written or not. A file that was written once can be written
again (`persist_again`), so after the first save that succeeds the file has all of them too.
-/

set_option autoImplicit false
set_option relaxedAutoImplicit false

namespace StepSequencer

/-! ### Drafts -/

/-- A song without an identifier, the instant at which it is saved, and the number that is at
hand for its identifier. -/
structure Draft where
  song : Song
  now : Int64
  suffix : Nat
  unnamed : song.id = none
  isSuffix : IsSuffix suffix

namespace Draft

/-- The identifier that the song gets. -/
def id (draft : Draft) : String :=
  songId draft.now draft.suffix

/-- The song as it is stored. -/
def stored (draft : Draft) : Song :=
  { draft.song with
    id := some draft.id
    info := { draft.song.info with modified := draft.now } }

/-- Two drafts differ in the instant or in the number. -/
def Differs (first second : Draft) : Prop :=
  (first.now, first.suffix) ≠ (second.now, second.suffix)

theorem idFor_song (draft : Draft) :
    Library.idFor draft.song draft.now draft.suffix = draft.id := by
  rw [Library.idFor, draft.unnamed]
  rfl

/-- Drafts that differ in the instant or the number get different identifiers. -/
theorem Differs.id_ne {first second : Draft} (h : first.Differs second) :
    first.id ≠ second.id := by
  intro heq
  obtain ⟨hnow, hsuffix⟩ := (songId_eq_iff first.isSuffix second.isSuffix).mp heq
  exact h (Prod.ext hnow hsuffix)

end Draft

namespace Library

/-! ### Writing again -/

/-- Where a library was written, a library can be written again. -/
theorem persist_again {library : Library} {files next : FileTree}
    (h : library.persist files = (.ok (), next)) (other : Library)
    (hpath : other.path = library.path) :
    ∃ last, other.persist next = (.ok (), last) := by
  obtain ⟨made, hmade, hwrite⟩ := persist_eq_ok_iff.mp h
  obtain ⟨last, hlast⟩ := FileTree.exists_write_again hwrite other.text.toUTF8
  refine ⟨last, persist_eq_ok_iff.mpr ⟨next, ?_, ?_⟩⟩
  · rw [folder, hpath]
    exact FileTree.makeFolders_of_write hmade hwrite
  · rw [hpath]
    exact hlast

/-! ### One save -/

/-- Saves a draft. The library and the files are what the save leaves, also if it fails. -/
def saveDraft (state : Library × FileTree) (draft : Draft) :
    Except LibraryError String × (Library × FileTree) :=
  let change := state.1.save state.2 draft.song draft.now draft.suffix
  (change.result, change.library, change.files)

theorem saveDraft_eq (state : Library × FileTree) (draft : Draft) :
    saveDraft state draft =
      (((state.1.put draft.id draft.song draft.now).persist state.2).1.map fun _ ↦ draft.id,
        state.1.put draft.id draft.song draft.now,
        ((state.1.put draft.id draft.song draft.now).persist state.2).2) := by
  rw [saveDraft, save_eq, draft.idFor_song]

/-- Under an identifier that no song has, a song is added behind all others. -/
theorem songs_put_of_fresh {library : Library} {draft : Draft}
    (h : ∀ song ∈ library.songs, song.id ≠ some draft.id) :
    (library.put draft.id draft.song draft.now).songs = library.songs ++ [draft.stored] := by
  have hsaved := saved_put library draft.id draft.song draft.now
  rw [hsaved.songs, List.filter_eq_self.mpr fun song hsong ↦ decide_eq_true (h song hsong)]
  rfl

/-! ### Runs -/

/-- What a library and the files are after the saves of a log: all songs are there in order, each
is the only one with its identifier, and if one of them was written the files are as the whole
library was written to them. -/
structure Keeps (path : String) (state : Library × FileTree)
    (log : List (Draft × Except LibraryError String)) : Prop where
  path_eq : state.1.path = path
  songs : state.1.songs = log.map fun call ↦ call.1.stored
  own : ∀ call ∈ log, state.1.listed (some call.1.id) = [call.1.stored]
  written : (∃ draft id, (draft, .ok id) ∈ log) →
    ∃ before, state.1.persist before = (.ok (), state.2)

theorem keeps_nil (path : String) (files : FileTree) : Keeps path (⟨path, []⟩, files) [] := by
  refine ⟨rfl, rfl, ?_, ?_⟩
  · intro call hcall
    cases hcall
  · rintro ⟨draft, id, hcall⟩
    cases hcall

/-- A draft that differs from all before has an identifier that no song has. -/
theorem Keeps.id_ne {path : String} {state : Library × FileTree}
    {log : List (Draft × Except LibraryError String)} (h : Keeps path state log) {draft : Draft}
    (hnew : ∀ call ∈ log, call.1.Differs draft) :
    ∀ song ∈ state.1.songs, song.id ≠ some draft.id := by
  intro song hsong heq
  rw [h.songs] at hsong
  obtain ⟨call, hcall, rfl⟩ := List.mem_map.mp hsong
  exact (hnew call hcall).id_ne (Option.some.inj heq)

/-- Once a save has succeeded, the next one does. -/
theorem Keeps.persist_put {path : String} {state : Library × FileTree}
    {log : List (Draft × Except LibraryError String)} (h : Keeps path state log)
    (hwritten : ∃ draft id, (draft, .ok id) ∈ log) (draft : Draft) :
    ((state.1.put draft.id draft.song draft.now).persist state.2).1 = .ok () := by
  obtain ⟨before, hbefore⟩ := h.written hwritten
  obtain ⟨last, hlast⟩ := persist_again hbefore (state.1.put draft.id draft.song draft.now) rfl
  rw [hlast]

/-- A draft that differs from all before it is added to what is kept. If saving it succeeds the
whole library has been written, whichever saves have failed before. -/
theorem Keeps.add {path : String} {state : Library × FileTree}
    {log : List (Draft × Except LibraryError String)} (h : Keeps path state log) {draft : Draft}
    (hnew : ∀ call ∈ log, call.1.Differs draft) :
    Keeps path (saveDraft state draft).2 (log ++ [(draft, (saveDraft state draft).1)]) := by
  have hsaved := saved_put state.1 draft.id draft.song draft.now
  rw [saveDraft_eq]
  rcases hpersist : (state.1.put draft.id draft.song draft.now).persist state.2 with ⟨result, next⟩
  refine ⟨h.path_eq, ?_, ?_, ?_⟩
  · rw [List.map_append, ← h.songs]
    exact songs_put_of_fresh (h.id_ne hnew)
  · intro call hcall
    rcases List.mem_append.mp hcall with hbefore | hlast
    · have hne : some call.1.id ≠ some draft.id :=
        fun heq ↦ (hnew call hbefore).id_ne (Option.some.inj heq)
      exact (hsaved.others _ hne).trans (h.own call hbefore)
    · rw [List.mem_singleton.mp hlast]
      exact hsaved.own
  · rintro ⟨other, id, hcall⟩
    suffices hresult : result = .ok () from ⟨state.2, by rw [hpersist, hresult]⟩
    rcases List.mem_append.mp hcall with hbefore | hlast
    · have hput := h.persist_put ⟨other, id, hbefore⟩ draft
      rwa [hpersist] at hput
    · have hmap := congrArg Prod.snd (List.mem_singleton.mp hlast)
      obtain ⟨_, hresult, -⟩ := eq_ok_of_map_eq_ok hmap.symm
      exact hresult

/-- Drafts that differ from each other are all kept. The induction knows the drafts only from the
log, so that they differ is a part of its motive. -/
theorem keeps_afterCalls (path : String) (files : FileTree) {drafts : List Draft}
    (h : drafts.Pairwise Draft.Differs) :
    Keeps path (afterCalls saveDraft (⟨path, []⟩, files) drafts)
      (callLog saveDraft (⟨path, []⟩, files) drafts) := by
  have hrun : ((callLog saveDraft (⟨path, []⟩, files) drafts).map Prod.fst).Pairwise
      Draft.Differs → Keeps path (afterCalls saveDraft (⟨path, []⟩, files) drafts)
        (callLog saveDraft (⟨path, []⟩, files) drafts) := by
    refine afterCalls_invariant
      (motive := fun state log ↦ (log.map Prod.fst).Pairwise Draft.Differs → Keeps path state log)
      ?_ (fun _ ↦ keeps_nil path files) drafts
    intro state log hbefore draft hpairwise
    rw [List.map_append, List.pairwise_append] at hpairwise
    obtain ⟨hdrafts, -, hnew⟩ := hpairwise
    refine (hbefore hdrafts).add fun call hcall ↦ ?_
    exact hnew _ (List.mem_map_of_mem hcall) draft List.mem_cons_self
  exact hrun (by rwa [map_fst_callLog])

/-- A library without a file is opened as an empty one. -/
theorem load_of_missing {files : FileTree} {path : String} (h : files.has path = false) :
    load files path = .ok ⟨path, []⟩ := by
  rw [load, h]
  rfl

/-- An identifier tells the instant and the number it was made of. So where a library is opened
without a file and songs without identifiers are saved, no two at the same instant with the same
number, the library has all of them in order and finds each under its identifier; and once a save
has succeeded, so has the file. -/
theorem fresh_saves_keep_songs :
    (∀ (now : Int64) (suffix : Nat), IsSuffix suffix →
      readSongId? (songId now suffix) = some (now.toInt, suffix)) ∧
    (∀ (now later : Int64) (first second : Nat), IsSuffix first → IsSuffix second →
      (songId now first = songId later second ↔ now = later ∧ first = second)) ∧
    ∀ (files : FileTree) (path : String) (drafts : List Draft), files.has path = false →
      drafts.Pairwise Draft.Differs →
      ∃ opened library left, load files path = .ok opened ∧
        afterCalls saveDraft (opened, files) drafts = (library, left) ∧
        library.songs = drafts.map Draft.stored ∧
        (∀ draft ∈ drafts, library.get? draft.id = some draft.stored) ∧
        ((∃ draft id, (draft, .ok id) ∈ callLog saveDraft (opened, files) drafts) →
          load left path = .ok library) := by
  refine ⟨fun now _ h ↦ readSongId?_songId now h, fun _ _ _ _ ↦ songId_eq_iff, ?_⟩
  intro files path drafts hmissing hdrafts
  have hkeeps := keeps_afterCalls path files hdrafts
  have hlog : (callLog saveDraft (⟨path, []⟩, files) drafts).map Prod.fst = drafts :=
    map_fst_callLog _ drafts
  rcases hafter : afterCalls saveDraft (⟨path, []⟩, files) drafts with ⟨library, left⟩
  rw [hafter] at hkeeps
  refine ⟨⟨path, []⟩, library, left, load_of_missing hmissing, hafter, ?_, ?_, ?_⟩
  · rw [← hlog, List.map_map]
    exact hkeeps.songs
  · intro draft hdraft
    rw [← hlog] at hdraft
    obtain ⟨call, hcall, rfl⟩ := List.mem_map.mp hdraft
    rw [get?_eq_getLast?, hkeeps.own call hcall]
    rfl
  · intro hwritten
    obtain ⟨before, hpersist⟩ := hkeeps.written hwritten
    rw [← show library.path = path from hkeeps.path_eq]
    exact load_of_persist hpersist

/-- A new song without an identifier. -/
def unnamedSong : Song :=
  { Song.new "" 0 with id := none }

theorem isSuffix_of_le {n : Nat} (hfirst : 0x10000 ≤ n) (hlast : n ≤ 0x1ffff) : IsSuffix n :=
  ⟨hfirst, hlast⟩

/-- Drafts of which neighbours share the instant or the number. -/
def closeDrafts : List Draft :=
  [⟨unnamedSong, 1, 0x10000, rfl, isSuffix_of_le (by decide) (by decide)⟩,
    ⟨unnamedSong, 11, 0x10000, rfl, isSuffix_of_le (by decide) (by decide)⟩,
    ⟨unnamedSong, 11, 0x1ffff, rfl, isSuffix_of_le (by decide) (by decide)⟩,
    ⟨unnamedSong, -11, 0x1ffff, rfl, isSuffix_of_le (by decide) (by decide)⟩]

/-- Identifiers of drafts that are close to each other, among them two of which one starts like the
other, are all different, and all songs are kept. -/
theorem keep_songs_closeDrafts :
    songId 1 0x10000 ≠ songId 11 0x10000 ∧
    ∃ library files, afterCalls saveDraft (⟨"songs.json", []⟩, {}) closeDrafts = (library, files) ∧
      library.songs.map Song.id =
        [some "110000", some "1110000", some "111ffff", some "-111ffff"] ∧
      load files "songs.json" = .ok library := by
  obtain ⟨-, hiff, hruns⟩ := fresh_saves_keep_songs
  constructor
  · rw [Ne, hiff 1 11 0x10000 0x10000 (isSuffix_of_le (by decide) (by decide))
      (isSuffix_of_le (by decide) (by decide))]
    decide
  · have hmissing : FileTree.has {} "songs.json" = false := rfl
    have hdiffer : closeDrafts.Pairwise Draft.Differs := by
      simp [closeDrafts, Draft.Differs]
    obtain ⟨opened, library, files, hopened, hafter, hsongs, -, hload⟩ :=
      hruns {} "songs.json" closeDrafts hmissing hdiffer
    obtain rfl : ⟨"songs.json", []⟩ = opened := Except.ok.inj hopened
    refine ⟨library, files, hafter, ?_, hload ⟨_, _, List.mem_cons_self⟩⟩
    rw [hsongs]
    rfl

end Library

end StepSequencer
