import StepSequencer.Storage.FileTree

/-!
# A file holds what was last written to it

Writing puts a file at the place its path leads to, and leaves all other places as they were
(`node?_put`). The names on the way lead to folders, and the place itself is no folder, so the
same path leads to the same place afterwards (`follow_put`), and reading it gives the text that
was written (`readText_of_writeText`).
-/

set_option autoImplicit false
set_option relaxedAutoImplicit false

namespace StepSequencer.FileTree

/-! ### Places -/

/-- What was put at a place is there, and all other places are as they were. -/
theorem node?_put (tree : FileTree) {place : Location} (hplace : place ≠ []) (node : Node)
    (other : Location) :
    (tree.put place node).node? other =
      if other = place then some node else tree.node? other := by
  unfold node? put
  by_cases hother : other = place
  · subst hother
    simp [hplace]
  · rw [if_neg hother]
    have hne : (place == other) = false := by
      simpa using Ne.symm hother
    by_cases hroot : other.isEmpty = true
    · rw [if_pos hroot, if_pos hroot]
    · rw [if_neg hroot, if_neg hroot]
      refine congrArg (Option.map Prod.snd) ?_
      simp only [List.find?_cons, hne, List.find?_filter]
      congr 1
      funext entry
      by_cases hentry : entry.1 = other
      · simp [hentry, hother]
      · simp [hentry]

theorem lookUp_put_of_ne (tree : FileTree) {place other : Location} (hplace : place ≠ [])
    (node : Node) (hother : other ≠ place) :
    (tree.put place node).lookUp other = tree.lookUp other := by
  unfold lookUp
  rw [node?_put tree hplace, if_neg hother]

theorem lookUp_put_self {tree : FileTree} {place : Location} {found : Option Node}
    (hplace : place ≠ []) (h : tree.lookUp place = .ok found) (node : Node) :
    (tree.put place node).lookUp place = .ok (some node) := by
  unfold lookUp at h ⊢
  rw [node?_put tree hplace, if_pos rfl]
  split at h
  · split at h
    · cases h
    · rename_i hshort
      rw [if_neg hshort]
  · rfl

theorem lookUp_nil (tree : FileTree) : tree.lookUp [] = .ok (some .folder) :=
  rfl

/-! ### Paths -/

/-- A path still leads to the same place when what was put somewhere took the place of no folder:
every name before the last leads to a folder, so not there. -/
theorem follow_put {tree : FileTree} {target : Location} (htarget : target ≠ [])
    (hfile : tree.lookUp target ≠ .ok (some .folder)) (node : Node) {start place : Location}
    {names : List String} (h : tree.follow start names = .ok place) :
    (tree.put target node).follow start names = .ok place := by
  induction names generalizing start with
  | nil => exact h
  | cons name rest ih =>
    cases rest with
    | nil => exact h
    | cons second others =>
      simp only [follow] at h ⊢
      split at h
      · cases h
      · cases h
      · cases h
      · rename_i hfolder
        have hne : step start name ≠ target := by
          intro heq
          rw [heq] at hfolder
          exact hfile hfolder
        rw [lookUp_put_of_ne tree htarget node hne, hfolder]
        exact ih h

/-- A path leads to the same place after a node was put where no folder is. -/
theorem locate_put {tree : FileTree} {path : String} {target : Location} (htarget : target ≠ [])
    (hfile : tree.lookUp target ≠ .ok (some .folder)) (node : Node) {place : Location}
    (h : tree.locate path = .ok place) : (tree.put target node).locate path = .ok place := by
  unfold locate at h ⊢
  split at h
  · cases h
  · split at h
    · cases h
    · rename_i hnonempty
      simp only [if_neg hnonempty]
      exact follow_put htarget hfile node h

/-! ### Reading what was written -/

/-- What a successful write says about the path and the place it leads to. -/
theorem write_eq_ok {tree next : FileTree} {path : String} {content : ByteArray}
    (h : tree.write path content = .ok next) :
    ∃ place found, tree.locate path = .ok place ∧ Path.isClosed path = false ∧
      tree.lookUp place = .ok found ∧ found ≠ some .folder ∧
        next = tree.put place (.file content) := by
  unfold write at h
  split at h
  · cases h
  · rename_i place hlocate
    split at h
    · cases h
    · rename_i hopen
      split at h
      · cases h
      · cases h
      · rename_i found hfolder hfound
        cases h
        exact ⟨place, found, hlocate, by simpa using hopen, hfound, by simpa using hfolder, rfl⟩

/-- Where a write went: not to the root, and not in place of a folder. -/
theorem exists_place_of_write {tree next : FileTree} {path : String} {content : ByteArray}
    (h : tree.write path content = .ok next) :
    ∃ place, tree.locate path = .ok place ∧ place ≠ [] ∧
      tree.lookUp place ≠ .ok (some .folder) ∧ next = tree.put place (.file content) := by
  obtain ⟨place, found, hlocate, -, hfound, hfolder, rfl⟩ := write_eq_ok h
  refine ⟨place, hlocate, ?_, ?_, rfl⟩
  · rintro rfl
    rw [lookUp_nil] at hfound
    cases hfound
    exact hfolder rfl
  · rw [hfound]
    intro heq
    cases heq
    exact hfolder rfl

/-- A file that was written is found at its path. -/
theorem find_of_write {tree next : FileTree} {path : String} {content : ByteArray}
    (h : tree.write path content = .ok next) : next.find path = .ok (.file content) := by
  obtain ⟨place, found, hlocate, hopen, hfound, hfolder, rfl⟩ := write_eq_ok h
  obtain ⟨target, htarget, hplace, hfile, -⟩ := exists_place_of_write h
  obtain rfl : target = place := Except.ok.inj (htarget.symm.trans hlocate)
  unfold find
  rw [locate_put hplace hfile _ hlocate]
  simp only [lookUp_put_self hplace hfound, hopen, Bool.false_eq_true, if_false]

/-- A text is read back from its bytes. -/
theorem fromUTF8?_toUTF8 (text : String) : String.fromUTF8? text.toUTF8 = some text := by
  unfold String.fromUTF8?
  rw [String.toUTF8_eq_toByteArray, dif_pos text.isValidUTF8]
  rfl

/-- Reading a path gives the text that was written to it last. -/
theorem readText_of_writeText {tree next : FileTree} {path text : String}
    (h : tree.writeText path text = .ok next) : next.readText path = .ok text := by
  unfold readText
  rw [find_of_write h]
  simp only [fromUTF8?_toUTF8]

/-- Where a text was written there is a file. -/
theorem has_of_writeText {tree next : FileTree} {path text : String}
    (h : tree.writeText path text = .ok next) : next.has path = true := by
  unfold has
  rw [find_of_write h]
  rfl

end StepSequencer.FileTree
