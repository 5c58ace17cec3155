import StepSequencer.Proofs.Storage.LastWrite

/-!
# What writing leaves as it was

`fileAt?` is the content of the file at a place, and `content?` that of the file which a path leads
to. Making folders changes no file (`fileAt?_makeFolders`). Writing changes the file at one place,
the one its path leads to (`node?_of_write`). Since a file never takes the place of a folder,
all other paths go on to lead where they led before, or nowhere, so what is read from a path that
leads to another place does not change either (`content?_of_write`).
-/

set_option autoImplicit false
set_option relaxedAutoImplicit false

namespace StepSequencer.FileTree

/-- The content of the file at a place, if there is one. -/
def fileAt? (tree : FileTree) (place : Location) : Option ByteArray :=
  match tree.node? place with
  | some (.file content) => some content
  | _ => none

/-- The content of the file that a path leads to, if there is one. -/
def content? (tree : FileTree) (path : String) : Option ByteArray :=
  match tree.find path with
  | .ok (.file content) => some content
  | _ => none

/-- Two paths lead to one place. -/
def Meet (tree : FileTree) (path other : String) : Prop :=
  ∃ place, tree.locate path = .ok place ∧ tree.locate other = .ok place

/-! ### Places -/

/-- Putting something at a place leaves the files at all others. -/
theorem fileAt?_put_of_ne (tree : FileTree) {place other : Location} (hplace : place ≠ [])
    (node : Node) (h : other ≠ place) :
    (tree.put place node).fileAt? other = tree.fileAt? other := by
  unfold fileAt?
  rw [node?_put tree hplace, if_neg h]

/-- A folder that takes the place of nothing is no change to any file. -/
theorem fileAt?_put_folder {tree : FileTree} {place : Location} (h : tree.node? place = none)
    (other : Location) : (tree.put place .folder).fileAt? other = tree.fileAt? other := by
  have hplace : place ≠ [] := by
    rintro rfl
    cases h
  by_cases hother : other = place
  · subst hother
    unfold fileAt?
    rw [node?_put tree hplace, if_pos rfl, h]
  · exact fileAt?_put_of_ne tree hplace .folder hother

theorem node?_of_lookUp {tree : FileTree} {place : Location} {found : Option Node}
    (h : tree.lookUp place = .ok found) : tree.node? place = found := by
  unfold lookUp at h
  split at h
  · split at h
    · cases h
    · cases h
      rfl
  · cases h
    rfl

/-- Making folders changes no file, also where it fails on the way. -/
theorem fileAt?_makeFoldersFrom (tree : FileTree) (made : Bool) (start : Location)
    (names : List String) (place : Location) :
    (tree.makeFoldersFrom made start names).2.fileAt? place = tree.fileAt? place := by
  induction names generalizing tree made start with
  | nil => rfl
  | cons name rest ih =>
    unfold makeFoldersFrom
    dsimp only
    split
    · rfl
    · exact ih tree made _
    · rfl
    · rename_i hmissing
      rw [ih, fileAt?_put_folder (node?_of_lookUp hmissing)]

/-- Making folders changes no file, also when it fails on the way. -/
theorem fileAt?_makeFolders (tree : FileTree) (path : String) (place : Location) :
    (tree.makeFolders path).2.fileAt? place = tree.fileAt? place := by
  unfold makeFolders
  split
  · rfl
  · exact fileAt?_makeFoldersFrom tree false _ _ place

/-! ### Writing -/

/-- A write puts the content at the place of its path, and changes no other place. -/
theorem node?_of_write {tree next : FileTree} {path : String} {content : ByteArray}
    (h : tree.write path content = .ok next) :
    ∃ place, tree.locate path = .ok place ∧ next.locate path = .ok place ∧
      next.node? place = some (.file content) ∧
        ∀ other, other ≠ place → next.node? other = tree.node? other := by
  obtain ⟨place, hlocate, hplace, hfile, rfl⟩ := exists_place_of_write h
  refine ⟨place, hlocate, locate_put hplace hfile _ hlocate, ?_, ?_⟩
  · rw [node?_put tree hplace, if_pos rfl]
  · intro other hother
    rw [node?_put tree hplace, if_neg hother]

/-! ### Other paths -/

/-- Where a file was put there is no folder. -/
theorem lookUp_put_file_ne_folder (tree : FileTree) {place : Location} (hplace : place ≠ [])
    (content : ByteArray) :
    (tree.put place (.file content)).lookUp place ≠ .ok (some .folder) := by
  intro h
  have hnode := node?_of_lookUp h
  rw [node?_put tree hplace, if_pos rfl] at hnode
  cases hnode

/-- A file that takes the place of no folder opens no way and closes none. -/
theorem follow_put_file_iff {tree : FileTree} {target : Location} (htarget : target ≠ [])
    (hfile : tree.lookUp target ≠ .ok (some .folder)) (content : ByteArray)
    {start place : Location} {names : List String} :
    (tree.put target (.file content)).follow start names = .ok place ↔
      tree.follow start names = .ok place := by
  refine ⟨fun h ↦ ?_, follow_put htarget hfile (.file content)⟩
  induction names generalizing start with
  | nil => exact h
  | cons name rest ih =>
    cases rest with
    | nil => exact h
    | cons second others =>
      simp only [follow] at h ⊢
      split at h
      · cases h
      · cases h
      · cases h
      · rename_i hfolder
        have hne : step start name ≠ target := by
          intro heq
          rw [heq] at hfolder
          exact lookUp_put_file_ne_folder tree htarget content hfolder
        rw [lookUp_put_of_ne tree htarget _ hne] at hfolder
        rw [hfolder]
        exact ih h

/-- A file that takes no folder's place does not change where paths lead. -/
theorem locate_put_file_iff {tree : FileTree} {target : Location} (htarget : target ≠ [])
    (hfile : tree.lookUp target ≠ .ok (some .folder)) (content : ByteArray) {path : String}
    {place : Location} :
    (tree.put target (.file content)).locate path = .ok place ↔ tree.locate path = .ok place := by
  have horigin : (tree.put target (.file content)).origin path = tree.origin path := rfl
  unfold locate
  split
  · exact Iff.rfl
  · split
    · exact Iff.rfl
    · rw [horigin]
      exact follow_put_file_iff htarget hfile content

theorem find_of_content? {tree : FileTree} {path : String} {content : ByteArray}
    (h : tree.content? path = some content) : tree.find path = .ok (.file content) := by
  unfold content? at h
  split at h
  · rename_i hfind
    cases h
    exact hfind
  · cases h

/-- What it takes that a path leads to a file with a content. -/
theorem content?_eq_some_iff {tree : FileTree} {path : String} {content : ByteArray} :
    tree.content? path = some content ↔
      ∃ place, tree.locate path = .ok place ∧ Path.isClosed path = false ∧
        tree.lookUp place = .ok (some (.file content)) := by
  unfold content? find
  constructor
  · intro h
    split at h
    · rename_i found hfind
      cases h
      split at hfind
      · cases hfind
      · rename_i place hlocate
        split at hfind
        · cases hfind
        · cases hfind
        · cases hfind
        · rename_i hfile
          split at hfind
          · cases hfind
          · rename_i hopen
            cases hfind
            exact ⟨place, hlocate, by simpa using hopen, hfile⟩
    · cases h
  · rintro ⟨place, hlocate, hopen, hfile⟩
    simp only [hlocate, hfile, hopen, Bool.false_eq_true, if_false]

/-- What is found in the file of a path does not change when another file is written. -/
theorem content?_of_write {tree next : FileTree} {path other : String} {content : ByteArray}
    (h : tree.write path content = .ok next) (hother : ¬ tree.Meet path other) :
    next.content? other = tree.content? other := by
  obtain ⟨target, hlocate, htarget, hfile, rfl⟩ := exists_place_of_write h
  ext found
  rw [content?_eq_some_iff, content?_eq_some_iff]
  refine exists_congr fun place ↦ ?_
  rw [locate_put_file_iff htarget hfile]
  refine and_congr_right fun hplace ↦ and_congr_right fun _ ↦ ?_
  have hne : place ≠ target := fun heq ↦ hother ⟨target, hlocate, heq ▸ hplace⟩
  rw [lookUp_put_of_ne tree htarget _ hne]

end StepSequencer.FileTree
