import StepSequencer.Proofs.Storage.LastWrite

/-!
# What was written once can be written again

Making folders leaves a folder behind at every name on the way (`allFolders_of_makeFoldersFrom`),
and neither more folders nor a file take the place of one. So after the folders above a path were
made and the file was written, making the folders again has nothing to do
(`makeFolders_of_write`), and the path leads to a file that can be written (`exists_write_again`).
-/

set_option autoImplicit false
set_option relaxedAutoImplicit false

namespace StepSequencer.FileTree

/-- All names lead to folders, one after the other, from a place on. -/
def AllFolders (tree : FileTree) : Location → List String → Prop
  | _, [] => True
  | place, name :: rest =>
    tree.lookUp (step place name) = .ok (some .folder) ∧ tree.AllFolders (step place name) rest

/-! ### Folders stay -/

/-- A folder stays when something is put where no folder is. -/
theorem lookUp_put_of_folder {tree : FileTree} {place other : Location} (hplace : place ≠ [])
    (hfree : tree.lookUp place ≠ .ok (some .folder)) (node : Node)
    (h : tree.lookUp other = .ok (some .folder)) :
    (tree.put place node).lookUp other = .ok (some .folder) := by
  have hne : other ≠ place := fun heq ↦ hfree (heq ▸ h)
  rw [lookUp_put_of_ne tree hplace node hne, h]

/-- Folders on the way stay when something is put where no folder is. -/
theorem AllFolders.put {tree : FileTree} {start place : Location} {names : List String}
    (h : tree.AllFolders start names) (hplace : place ≠ [])
    (hfree : tree.lookUp place ≠ .ok (some .folder)) (node : Node) :
    (tree.put place node).AllFolders start names := by
  induction names generalizing start with
  | nil => trivial
  | cons name rest ih => exact ⟨lookUp_put_of_folder hplace hfree node h.1, ih h.2⟩

theorem ne_nil_of_lookUp_eq_none {tree : FileTree} {place : Location}
    (h : tree.lookUp place = .ok none) : place ≠ [] := by
  rintro rfl
  rw [lookUp_nil] at h
  cases h

/-- Folders stay when others are made, also where this fails on the way. -/
theorem lookUp_makeFoldersFrom {tree : FileTree} {other : Location}
    (h : tree.lookUp other = .ok (some .folder)) (made : Bool) (start : Location)
    (names : List String) :
    (tree.makeFoldersFrom made start names).2.lookUp other = .ok (some .folder) := by
  induction names generalizing tree made start with
  | nil => exact h
  | cons name rest ih =>
    unfold makeFoldersFrom
    dsimp only
    split
    · exact h
    · exact ih h made _
    · exact h
    · rename_i hmissing
      have hfree : tree.lookUp (step start name) ≠ .ok (some .folder) := by simp [hmissing]
      exact ih (lookUp_put_of_folder (ne_nil_of_lookUp_eq_none hmissing) hfree .folder h) true _

/-- Making folders does not move the start of relative paths. -/
theorem home_makeFoldersFrom (tree : FileTree) (made : Bool) (start : Location)
    (names : List String) : (tree.makeFoldersFrom made start names).2.home = tree.home := by
  induction names generalizing tree made start with
  | nil => rfl
  | cons name rest ih =>
    unfold makeFoldersFrom
    dsimp only
    split
    · rfl
    · exact ih tree made _
    · rfl
    · exact ih (tree.put (step start name) .folder) true _

/-! ### Making folders -/

/-- Where folders were made without an error, they all are there. -/
theorem allFolders_of_makeFoldersFrom {tree next : FileTree} {made : Bool} {start : Location}
    {names : List String} (h : tree.makeFoldersFrom made start names = (.ok (), next)) :
    next.AllFolders start names := by
  induction names generalizing tree made start with
  | nil => trivial
  | cons name rest ih =>
    unfold makeFoldersFrom at h
    dsimp only at h
    split at h
    · cases h
    · rename_i hfolder
      have hstays := lookUp_makeFoldersFrom hfolder made (step start name) rest
      rw [h] at hstays
      exact ⟨hstays, ih h⟩
    · cases h
    · rename_i hmissing
      have hput := lookUp_put_self (ne_nil_of_lookUp_eq_none hmissing) hmissing .folder
      have hstays := lookUp_makeFoldersFrom hput true (step start name) rest
      rw [h] at hstays
      exact ⟨hstays, ih h⟩

/-- Where all folders are there, making them does nothing. -/
theorem AllFolders.makeFoldersFrom_eq {tree : FileTree} {start : Location} {names : List String}
    (h : tree.AllFolders start names) (made : Bool) :
    tree.makeFoldersFrom made start names = (.ok (), tree) := by
  induction names generalizing start with
  | nil => rfl
  | cons name rest ih =>
    unfold makeFoldersFrom
    simp only [h.1]
    exact ih h.2

/-! ### Writing again -/

/-- After a file was written, the folders that were made before are still there. -/
theorem makeFolders_of_write {tree made next : FileTree} {folder path : String}
    {content : ByteArray} (hmade : tree.makeFolders folder = (.ok (), made))
    (hwrite : made.write path content = .ok next) :
    next.makeFolders folder = (.ok (), next) := by
  obtain ⟨place, -, hplace, hfree, rfl⟩ := exists_place_of_write hwrite
  unfold makeFolders at hmade ⊢
  split at hmade
  · cases hmade
  · rename_i names hnames
    have hhome : made.home = tree.home := by
      rw [← home_makeFoldersFrom tree false (tree.origin folder) names, hmade]
    have horigin : (made.put place (.file content)).origin folder = tree.origin folder := by
      rw [origin, origin, ← hhome]
      rfl
    rw [horigin]
    exact ((allFolders_of_makeFoldersFrom hmade).put hplace hfree _).makeFoldersFrom_eq false

/-- A file that was written can be written again. -/
theorem exists_write_again {tree next : FileTree} {path : String} {content : ByteArray}
    (h : tree.write path content = .ok next) (other : ByteArray) :
    ∃ last, next.write path other = .ok last := by
  obtain ⟨place, found, hlocate, hopen, hfound, -, rfl⟩ := write_eq_ok h
  obtain ⟨target, htarget, hplace, hfree, -⟩ := exists_place_of_write h
  obtain rfl : target = place := Except.ok.inj (htarget.symm.trans hlocate)
  refine ⟨(tree.put target (.file content)).put target (.file other), ?_⟩
  unfold write
  rw [locate_put hplace hfree _ hlocate]
  simp only [hopen, lookUp_put_self hplace hfound, Bool.false_eq_true, if_false]

end StepSequencer.FileTree
