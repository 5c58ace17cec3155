import StepSequencer.Proofs.Storage.Contents
import StepSequencer.Proofs.Text.Lines

/-!
# The files of a folder

The path that joins the path of a folder and a name leads to the place of that name in the folder,
unless the name has a slash in it or is one of the two with a meaning of their own
(`locate_join`). So the text that is read from this path is the text of the file that the folder
holds under the name (`holds_of_readText`).
-/

set_option autoImplicit false
set_option relaxedAutoImplicit false

namespace StepSequencer

/-! ### Joined paths -/

namespace Path

/-- A name that leads to a place of its own in every folder. -/
def IsProper (name : String) : Prop :=
  name ∉ ["", ".", ".."] ∧ '/' ∉ name.toList

/-- The names of a path are those before a slash and those behind it. -/
theorem names_append_slash (front back : String) :
    names (front ++ "/" ++ back) = names front ++ names back := by
  have htext : (front ++ "/" ++ back).toList = front.toList ++ '/' :: back.toList := by
    rw [String.toList_append, String.toList_append, List.append_assoc]
    rfl
  rw [names, htext, Text.split_append_cons, List.filter_append, List.map_append]
  rfl

theorem names_of_isProper {name : String} (h : IsProper name) : names name = [name] := by
  have hne : name.toList ≠ [] := fun hnil ↦ h.1 (by simp [String.toList_eq_nil_iff.mp hnil])
  rw [names, Text.split_of_not_mem h.2]
  simp [hne]

theorem exists_front_of_isClosed {path : String} (h : isClosed path = true) :
    ∃ front, path = front ++ "/" := by
  rw [isClosed, decide_eq_true_eq, List.getLast?_eq_some_iff] at h
  obtain ⟨front, hfront⟩ := h
  refine ⟨String.ofList front, ?_⟩
  rw [← String.toList_inj, hfront, String.toList_append, String.toList_ofList]
  rfl

/-- The path of a name in a folder has this name behind those of the folder. -/
theorem names_join {folder name : String} (hfolder : folder ≠ "") (hname : IsProper name) :
    names (join folder name) = names folder ++ [name] := by
  by_cases hclosed : isClosed folder = true
  · obtain ⟨front, rfl⟩ := exists_front_of_isClosed hclosed
    have hfront : names (front ++ "/") = names front := by
      have hempty := names_append_slash front ""
      rwa [String.append_empty, show names "" = [] from rfl, List.append_nil] at hempty
    rw [join, hclosed, Bool.or_true, if_pos rfl, names_append_slash, names_of_isProper hname,
      hfront]
  · rw [join, if_neg (by simp [hfolder, hclosed]), names_append_slash, names_of_isProper hname]

/-- The path of a name in a folder starts where the path of the folder does. -/
theorem isAbsolute_join {folder : String} (h : folder ≠ "") (name : String) :
    isAbsolute (join folder name) = isAbsolute folder := by
  obtain ⟨first, rest, hfolder⟩ :=
    List.exists_cons_of_ne_nil fun hnil ↦ h (String.toList_eq_nil_iff.mp hnil)
  unfold isAbsolute join
  split <;> simp [hfolder]

end Path

namespace FileTree

/-- The text of the file that a folder holds under a name. -/
def Holds (tree : FileTree) (folder name text : String) : Prop :=
  ∃ place, tree.locate folder = .ok place ∧
    (tree.fileAt? (place ++ [name])).bind String.fromUTF8? = some text

theorem step_of_isProper {name : String} (h : Path.IsProper name) (place : Location) :
    step place name = place ++ [name] := by
  obtain ⟨hname, -⟩ := h
  simp only [List.mem_cons, List.not_mem_nil, or_false, not_or] at hname
  rw [step, if_neg hname.2.1, if_neg hname.2.2]

/-- Where names lead to a folder, one more name leads on from there. -/
theorem follow_append_singleton {tree : FileTree} {start place : Location} {names : List String}
    (h : tree.follow start names = .ok place) (hplace : tree.lookUp place = .ok (some .folder))
    (name : String) : tree.follow start (names ++ [name]) = .ok (step place name) := by
  induction names generalizing start with
  | nil =>
    obtain rfl : start = place := Except.ok.inj h
    rfl
  | cons first rest ih =>
    cases rest with
    | nil =>
      obtain rfl : step start first = place := Except.ok.inj h
      simp only [List.cons_append, List.nil_append, follow, hplace]
    | cons next others =>
      simp only [follow, List.cons_append] at h ih ⊢
      split at h
      · cases h
      · cases h
      · cases h
      · exact ih h

/-- A path leads to a place by following its names. -/
theorem locate_eq_ok {tree : FileTree} {path : String} {place : Location}
    (h : tree.locate path = .ok place) :
    path ≠ "" ∧ tree.follow (tree.origin path) (Path.names path) = .ok place := by
  unfold locate checkedNames at h
  split at h
  · cases h
  · rename_i names hnames
    split at hnames
    · cases hnames
    · split at hnames
      · cases hnames
      · cases hnames
        split at h
        · cases h
        · rename_i hempty
          exact ⟨by simpa using hempty, h⟩

/-- A name in a folder leads to its place there. -/
theorem locate_join {tree : FileTree} {folder name : String} {place target : Location}
    (hfolder : tree.locate folder = .ok place) (hplace : tree.lookUp place = .ok (some .folder))
    (hname : Path.IsProper name) (h : tree.locate (Path.join folder name) = .ok target) :
    target = place ++ [name] := by
  obtain ⟨hne, hfollow⟩ := locate_eq_ok hfolder
  obtain ⟨-, htarget⟩ := locate_eq_ok h
  have horigin : tree.origin (Path.join folder name) = tree.origin folder := by
    rw [origin, Path.isAbsolute_join hne, origin]
  rw [horigin, Path.names_join hne hname, follow_append_singleton hfollow hplace,
    step_of_isProper hname] at htarget
  exact (Except.ok.inj htarget).symm

/-- A text that was read is the content of a file. -/
theorem readText_eq_ok {tree : FileTree} {path text : String} (h : tree.readText path = .ok text) :
    ∃ content, tree.content? path = some content ∧ String.fromUTF8? content = some text := by
  unfold readText at h
  split at h
  · cases h
  · cases h
  · rename_i content hfind
    split at h
    · rename_i found hfound
      cases h
      exact ⟨content, by rw [content?, hfind], hfound⟩
    · cases h

/-- Only a folder is listed. -/
theorem list_eq_ok {tree : FileTree} {path : String} {names : List String}
    (h : tree.list path = .ok names) :
    ∃ place, tree.locate path = .ok place ∧ tree.lookUp place = .ok (some .folder) := by
  unfold list at h
  split at h
  · cases h
  · rename_i place hlocate
    split at h
    · cases h
    · cases h
    · cases h
    · rename_i hfolder
      exact ⟨place, hlocate, hfolder⟩

/-- What is read from the path of a name in a folder is the text that the folder holds under the
name. -/
theorem holds_of_readText {tree : FileTree} {folder name text : String} {names : List String}
    (hlist : tree.list folder = .ok names) (hname : Path.IsProper name)
    (h : tree.readText (Path.join folder name) = .ok text) : tree.Holds folder name text := by
  obtain ⟨content, hcontent, htext⟩ := readText_eq_ok h
  obtain ⟨target, htarget, -, hfile⟩ := content?_eq_some_iff.mp hcontent
  obtain ⟨place, hlocate, hplace⟩ := list_eq_ok hlist
  obtain rfl := locate_join hlocate hplace hname htarget
  refine ⟨place, hlocate, ?_⟩
  rw [fileAt?, node?_of_lookUp hfile, Option.bind_some, htext]

end FileTree

end StepSequencer
