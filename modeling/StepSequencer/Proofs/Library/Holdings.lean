import StepSequencer.Proofs.Library.Reopening

/-!
# What a library holds

A library is seen as lists of songs: for every identifier the songs that have it, in the order in
which they are stored, and the songs without an identifier (`listed`). `Saved` and `Deleted` say
what a call does to these lists and to the order of all songs. Saving leaves one song of its
identifier, at the end; deleting takes the last one away; every other song stays, in its place
among the others.

A library in which no identifier occurs twice stays so in every run (`Run.hasDistinctIds`).
-/

set_option autoImplicit false
set_option relaxedAutoImplicit false

namespace StepSequencer.Library

/-- The songs with an identifier, or those without one, in the order in which they are stored. -/
def listed (library : Library) (key : Option String) : List Song :=
  library.songs.filter fun song ↦ song.id == key

/-- What saving a song under an identifier does: the song follows all songs with other
identifiers and is the only one with its own. -/
structure Saved (before : Library) (id : String) (song : Song) (after : Library) : Prop where
  songs : after.songs = before.songs.filter (fun other ↦ other.id ≠ some id) ++ [song]
  own : after.listed (some id) = [song]
  others : ∀ key, key ≠ some id → after.listed key = before.listed key

/-- What deleting an identifier does: where a song has it, the last one is taken away from its
place, and otherwise nothing changes. -/
structure Deleted (before : Library) (id : String) (found : Bool) (after : Library) : Prop where
  found_iff : found = true ↔ before.listed (some id) ≠ []
  removed : found = true → ∃ front song back, before.get? id = some song ∧
    before.songs = front ++ song :: back ∧ (∀ other ∈ back, other.id ≠ some id) ∧
      after.songs = front ++ back
  unchanged : found = false → after = before
  own : after.listed (some id) = (before.listed (some id)).dropLast
  others : ∀ key, key ≠ some id → after.listed key = before.listed key

/-- No identifier occurs twice. -/
def HasDistinctIds (library : Library) : Prop :=
  ∀ id, (library.listed (some id)).length ≤ 1

/-! ### Looking up -/

theorem listed_some (library : Library) (id : String) :
    library.listed (some id) = library.songs.filter (named id) :=
  rfl

/-- The song of an identifier is the last one that has it. -/
theorem get?_eq_getLast? (library : Library) (id : String) :
    library.get? id = (library.listed (some id)).getLast? := by
  unfold get?
  rw [listed_some, List.getLast?_eq_head?_reverse, ← List.filter_reverse, List.head?_filter]

/-! ### Saving -/

/-- Without the songs of an identifier there is none with it. -/
theorem filter_key_eq_nil {songs : List Song} {id : String} :
    (songs.filter fun other ↦ !named id other).filter (named id) = [] := by
  rw [List.filter_filter, List.filter_eq_nil_iff]
  intro song _
  simp

/-- Taking out the songs of an identifier leaves those with another one, or with none. -/
theorem filter_other_key {songs : List Song} {id : String} {key : Option String}
    (h : key ≠ some id) :
    (songs.filter fun other ↦ !named id other).filter (fun song ↦ song.id == key) =
      songs.filter fun song ↦ song.id == key := by
  rw [List.filter_filter]
  refine List.filter_congr fun song _ ↦ ?_
  by_cases hkey : song.id = key
  · simp [named, hkey, h]
  · simp [hkey]

/-- Putting a song into a library is what saving does to its songs. -/
theorem saved_put (library : Library) (id : String) (song : Song) (now : Int64) :
    Saved library id { song with id := some id, info := { song.info with modified := now } }
      (library.put id song now) := by
  refine ⟨?_, ?_, ?_⟩
  · unfold put
    refine congrArg (· ++ _) (List.filter_congr fun other _ ↦ ?_)
    exact Bool.eq_iff_iff.mpr (by simp [named])
  · unfold put
    rw [listed_some, List.filter_append, filter_key_eq_nil]
    simp [named]
  · intro key hkey
    unfold put listed
    rw [List.filter_append, filter_other_key hkey]
    simp [hkey.symm]

/-! ### Deleting -/

/-- Where a song has the identifier, the songs are cut at the last one that has it. -/
theorem exists_erase {library : Library} {id : String}
    (h : library.songs.any (named id) = true) :
    ∃ front song back, library.songs = front ++ song :: back ∧ named id song = true ∧
      (∀ other ∈ back, named id other = false) ∧ (library.erase id).songs = front ++ back := by
  obtain ⟨some, hmem, hnamed⟩ := List.any_eq_true.mp h
  obtain ⟨song, back, front, hback, hsong, hsongs, herase⟩ :=
    List.exists_of_eraseP (List.mem_reverse.mpr hmem) hnamed
  refine ⟨front.reverse, song, back.reverse, ?_, hsong, ?_, ?_⟩
  · simpa using congrArg List.reverse hsongs
  · intro other hother
    simpa using hback other (List.mem_reverse.mp hother)
  · unfold erase
    simpa using congrArg List.reverse herase

/-- Erasing a song that is there is what deleting does to the songs. -/
theorem deleted_erase {library : Library} {id : String}
    (h : library.songs.any (named id) = true) : Deleted library id true (library.erase id) := by
  obtain ⟨front, song, back, hsongs, hsong, hback, herase⟩ := exists_erase h
  have hnone : back.filter (named id) = [] :=
    List.filter_eq_nil_iff.mpr (by simpa using hback)
  have hlisted : library.listed (some id) = front.filter (named id) ++ [song] := by
    rw [listed_some, hsongs, List.filter_append, List.filter_cons_of_pos hsong, hnone]
  refine ⟨?_, ?_, ?_, ?_, ?_⟩
  · simp [hlisted]
  · intro _
    refine ⟨front, song, back, ?_, hsongs, by simpa [named] using hback, herase⟩
    rw [get?_eq_getLast?, hlisted, List.getLast?_concat]
  · intro hfalse
    cases hfalse
  · rw [hlisted, List.dropLast_concat, listed_some, herase, List.filter_append, hnone,
      List.append_nil]
  · intro key hkey
    have hne : (song.id == key) = false := by
      have hid : song.id = some id := by simpa [named] using hsong
      simpa [hid] using hkey.symm
    unfold listed
    rw [herase, hsongs, List.filter_append, List.filter_append, List.filter_cons, hne]
    rfl

/-- Where no song has the identifier there is nothing to delete. -/
theorem deleted_self {library : Library} {id : String}
    (h : library.songs.any (named id) = false) : Deleted library id false library := by
  have hlisted : library.listed (some id) = [] := by
    rw [listed_some, List.filter_eq_nil_iff]
    simpa using h
  refine ⟨?_, ?_, fun _ ↦ rfl, ?_, fun _ _ ↦ rfl⟩
  · simp [hlisted]
  · intro htrue
    cases htrue
  · rw [hlisted]
    rfl

/-! ### Calls -/

/-- A save that succeeds has saved the song. -/
theorem saved_of_save {library : Library} {files : FileTree} {song : Song} {now : Int64}
    {suffix : Nat} {id : String} (h : (library.save files song now suffix).result = .ok id) :
    Saved library id { song with id := some id, info := { song.info with modified := now } }
      (library.save files song now suffix).library := by
  obtain ⟨-, hlibrary, -⟩ := save_eq_ok h
  rw [hlibrary]
  exact saved_put library id song now

/-- A deletion that succeeds has deleted a song, or there was none. -/
theorem deleted_of_delete {library : Library} {files : FileTree} {id : String} {found : Bool}
    (h : (library.delete files id).result = .ok found) :
    Deleted library id found (library.delete files id).library := by
  obtain ⟨rfl, hany, hlibrary, -⟩ | ⟨rfl, hany, hlibrary, -⟩ := delete_eq_ok h
  · rw [hlibrary]
    exact deleted_erase hany
  · rw [hlibrary]
    exact deleted_self hany

/-! ### Distinct identifiers -/

/-- Saving keeps identifiers apart: the song takes the place of all with its identifier. -/
theorem Saved.hasDistinctIds {before after : Library} {id : String} {song : Song}
    (h : Saved before id song after) (hbefore : before.HasDistinctIds) :
    after.HasDistinctIds := by
  intro other
  by_cases hother : other = id
  · rw [hother, h.own]
    exact Nat.le_refl 1
  · rw [h.others _ (by simpa using hother)]
    exact hbefore other

/-- Deleting keeps identifiers apart. -/
theorem Deleted.hasDistinctIds {before after : Library} {id : String} {found : Bool}
    (h : Deleted before id found after) (hbefore : before.HasDistinctIds) :
    after.HasDistinctIds := by
  intro other
  by_cases hother : other = id
  · have hlength := hbefore id
    rw [hother, h.own, List.length_dropLast]
    omega
  · rw [h.others _ (by simpa using hother)]
    exact hbefore other

/-- Where the identifier occurred once, nothing is found under it after it was deleted. -/
theorem Deleted.get?_eq_none {before after : Library} {id : String} {found : Bool}
    (h : Deleted before id found after) (hbefore : before.HasDistinctIds) :
    after.get? id = none := by
  have hlength := hbefore id
  rw [get?_eq_getLast?, h.own, List.getLast?_eq_none_iff, ← List.length_eq_zero_iff,
    List.length_dropLast]
  omega

/-- Identifiers stay apart in all calls that succeed. -/
theorem Run.hasDistinctIds {path : String} {opened library : Library} {files : FileTree}
    (h : Run path opened library files) (hopened : opened.HasDistinctIds) :
    library.HasDistinctIds := by
  induction h with
  | opened hopen => exact hopened
  | saved before hsave ih => exact (saved_of_save hsave).hasDistinctIds ih
  | deleted before hdelete ih => exact (deleted_of_delete hdelete).hasDistinctIds ih

/-- What is found in a library, and what calls do to it, at any point of any run; and where no
identifier occurred twice at the beginning, none ever does, and nothing is found under an
identifier that was just deleted. -/
theorem Run.holdings {path : String} {opened library : Library} {files : FileTree}
    (h : Run path opened library files) :
    (∀ id, library.get? id = (library.listed (some id)).getLast?) ∧
    (∀ song now suffix id, (library.save files song now suffix).result = .ok id →
      id = song.id.getD (songId now suffix) ∧
      Saved library id { song with id := some id, info := { song.info with modified := now } }
        (library.save files song now suffix).library) ∧
    (∀ id found, (library.delete files id).result = .ok found →
      Deleted library id found (library.delete files id).library) ∧
    (opened.HasDistinctIds → library.HasDistinctIds ∧
      ∀ id found, (library.delete files id).result = .ok found →
        (library.delete files id).library.get? id = none) := by
  refine ⟨library.get?_eq_getLast?, ?_, ?_, ?_⟩
  · intro song now suffix id hsave
    exact ⟨(save_eq_ok hsave).1, saved_of_save hsave⟩
  · intro id found hdelete
    exact deleted_of_delete hdelete
  · intro hopened
    have hdistinct := h.hasDistinctIds hopened
    refine ⟨hdistinct, ?_⟩
    intro id found hdelete
    exact (deleted_of_delete hdelete).get?_eq_none hdistinct

/-- A library with two songs of one identifier, and one without an identifier between them. -/
def twins : Library :=
  ⟨"songs.json", [Song.new "a" 1, { Song.new "b" 2 with id := none }, Song.new "a" 3]⟩

/-- Of two songs with one identifier only the later is deleted. -/
theorem holdings_twins : ∃ files, Run "songs.json" twins twins files ∧
    (twins.delete files "a").result = .ok true ∧
      (twins.delete files "a").library.listed (some "a") = [Song.new "a" 1] := by
  have hwrite : FileTree.writeText {} "songs.json" twins.text =
      .ok { entries := [(["songs.json"], .file twins.text.toUTF8)] } := rfl
  have hrun : Run "songs.json" twins twins
      { entries := [(["songs.json"], .file twins.text.toUTF8)] } :=
    .opened (load_of_writeText hwrite (ofText_text twins "songs.json"))
  have hdelete : (twins.delete { entries := [(["songs.json"], .file twins.text.toUTF8)] }
      "a").result = .ok true := rfl
  refine ⟨_, hrun, hdelete, ?_⟩
  rw [(hrun.holdings.2.2.1 "a" true hdelete).own]
  decide

end StepSequencer.Library
