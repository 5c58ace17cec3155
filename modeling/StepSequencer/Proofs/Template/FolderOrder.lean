import StepSequencer.Proofs.Json.Members
import StepSequencer.Proofs.Outcomes
import StepSequencer.Proofs.Storage.FileNames
import StepSequencer.Proofs.Storage.FolderFiles
import StepSequencer.Template.Folder

/-!
# The order of the files in a folder of templates

A system lists the entries of a folder in some order, and templates are loaded in that order.
`Loads` is what can come of it, over all orders. The name of a template gives the name of its file
and is given by it (`templateName?_eq_some_iff`), so no file takes the place of another, and a
registry holds what was loaded over what it held before whatever the order was (`Gathers`,
`addListed_cases`). `Loads.templates_anyOrder` says which templates there are then, and when
loading fails.

Nothing here depends on what a template is. All of it holds for every reader of templates, for
every way of reading files, and for names that are no texts.
-/

set_option autoImplicit false
set_option relaxedAutoImplicit false

namespace StepSequencer

/-! ### Names of template files -/

/-- The names of template files are those of templates with the extension behind them. -/
theorem templateName?_eq_some_iff {fileName : FileName} {name : String} :
    templateName? fileName = some name ↔ name ≠ "" ∧ fileName = .ofText (name ++ ".hbs") := by
  have hbytes : (FileName.ofText (name ++ ".hbs")).bytes =
      (FileName.ofText name).bytes ++ FileName.dot :: (FileName.ofText "hbs").bytes :=
    FileName.bytes_ofText_append name ".hbs"
  have hplain : FileName.dot ∉ (FileName.ofText "hbs").bytes := by decide
  rw [templateName?, templateExtension]
  constructor
  · intro h
    split at h
    · rename_i stem extension hsplit
      split at h
      · rename_i hextension
        obtain ⟨hne, -, heq⟩ := FileName.splitExtension?_eq_some_iff.mp hsplit
        obtain rfl := FileName.text?_eq_some_iff.mp hextension
        obtain rfl := FileName.text?_eq_some_iff.mp h
        exact ⟨fun hempty ↦ hne (FileName.bytes_ofText_eq_nil_iff.mpr hempty),
          congrArg FileName.mk (heq.trans hbytes.symm)⟩
      · cases h
    · cases h
  · rintro ⟨hne, rfl⟩
    have hstem : (FileName.ofText name).bytes ≠ [] :=
      fun hnil ↦ hne (FileName.bytes_ofText_eq_nil_iff.mp hnil)
    rw [FileName.splitExtension?_eq_some_iff.mpr ⟨hstem, hplain, hbytes⟩]
    dsimp only
    rw [if_pos (FileName.text?_eq_some_iff.mpr rfl), FileName.text?_eq_some_iff.mpr rfl]

/-- The file of a template is its name with the extension, in the folder. -/
theorem templatePath_eq (folder name : String) :
    templatePath folder name = Path.join folder (name ++ ".hbs") := by
  rw [templatePath, String.append_assoc]
  rfl

namespace Registry

variable {T : Type}

/-! ### Loading in some order -/

/-- What can come of loading the templates of a folder, whose entries may be listed in any order. -/
inductive Loads (reader : TemplateReader T) (read : String → Except FileError String)
    (folder : String) (listing : Listing) : Loading T → Prop where
  | failed {e : FileError} (h : listing = .error e) :
      Loads reader read folder listing (ofListing reader read folder (.error e))
  | listed {entries order : List (Except FileError FileName)} (h : listing = .ok entries)
      (horder : order.Perm entries) :
      Loads reader read folder listing (ofListing reader read folder (.ok order))

/-- A tree lists its folders in one of the orders. -/
theorem loads_ofFolder (reader : TemplateReader T) (files : FileTree) (folder : String) :
    Loads reader files.readText folder (files.listing folder) (ofFolder reader files folder) := by
  unfold ofFolder
  cases h : files.listing folder with
  | error e => exact .failed rfl
  | ok entries => exact .listed rfl (List.Perm.refl entries)

/-- The template in the file of a name in a folder, if it can be read and is well formed. -/
def fileTemplate? (reader : TemplateReader T) (read : String → Except FileError String)
    (folder name : String) : Option T :=
  match read (Path.join folder (name ++ ".hbs")) with
  | .error _ => none
  | .ok text => (reader name text).toOption

/-- The files of templates among some entries. -/
def HasFile (entries : List (Except FileError FileName)) (name : String) : Prop :=
  name ≠ "" ∧ .ok (.ofText (name ++ ".hbs")) ∈ entries

theorem find?_add (registry : Registry T) (name other : String) (template : T) :
    (registry.add name template).find? other =
      if name = other then some template else registry.find? other :=
  Json.member?_cons other name template registry.templates

theorem hasFile_nil (name : String) : ¬HasFile [] name := by
  simp [HasFile]

/-- A name has its file among some entries if the first of them is that file, or if it has it among
the others. -/
theorem hasFile_cons (fileName : FileName) (entries : List (Except FileError FileName))
    (name : String) :
    HasFile (.ok fileName :: entries) name ↔
      templateName? fileName = some name ∨ HasFile entries name := by
  rw [HasFile, HasFile, List.mem_cons, templateName?_eq_some_iff, and_or_left, Except.ok.injEq,
    eq_comm]

/-- Which files there are does not depend on the order of the entries. -/
theorem hasFile_congr {entries order : List (Except FileError FileName)}
    (h : order.Perm entries) (name : String) : HasFile order name ↔ HasFile entries name := by
  rw [HasFile, HasFile, h.mem_iff]

variable {reader : TemplateReader T} {read : String → Except FileError String}
  {folder : String}

/-- A file has a template if it is read and its text is one. -/
theorem fileTemplate?_eq_some_iff {name : String} {template : T} :
    fileTemplate? reader read folder name = some template ↔
      ∃ text, read (Path.join folder (name ++ ".hbs")) = .ok text ∧
        reader name text = .ok template := by
  unfold fileTemplate?
  cases read (Path.join folder (name ++ ".hbs")) with
  | error e => simp
  | ok text => cases hreader : reader name text <;> simp [Except.toOption, hreader]

/-! ### One file -/

/-- A file with a template is added under its name. -/
theorem addFile_of_some {name : String} {template : T}
    (h : fileTemplate? reader read folder name = some template) (registry : Registry T) :
    registry.addFile reader read name (templatePath folder name) =
      .ok (registry.add name template) := by
  obtain ⟨text, hread, hreader⟩ := fileTemplate?_eq_some_iff.mp h
  simp only [addFile, templatePath_eq, hread, hreader]

/-- A file that cannot be read, or whose text is no template, is an error. -/
theorem addFile_of_none {name : String} (h : fileTemplate? reader read folder name = none)
    (registry : Registry T) :
    ∃ e, registry.addFile reader read name (templatePath folder name) = .error e := by
  rw [fileTemplate?] at h
  rw [addFile, templatePath_eq]
  cases hread : read (Path.join folder (name ++ ".hbs")) with
  | error e => exact ⟨.unreadable (Path.join folder (name ++ ".hbs")) e, rfl⟩
  | ok text =>
    simp only [hread] at h
    dsimp only
    cases hreader : reader name text with
    | error reason => exact ⟨.malformed (Path.join folder (name ++ ".hbs")) reason, rfl⟩
    | ok template =>
      rw [hreader] at h
      cases h

/-- A file whose name is not that of a template is passed over. -/
theorem addListed_cons_of_none {fileName : FileName} (h : templateName? fileName = none)
    (rest : List (Except FileError FileName)) (registry : Registry T) :
    addListed reader read folder (.ok fileName :: rest) registry =
      addListed reader read folder rest registry := by
  simp only [addListed, h]

/-- A file with a template is added before the others. -/
theorem outcome_addListed_cons_of_some {fileName : FileName} {name : String} {template : T}
    (hname : templateName? fileName = some name)
    (h : fileTemplate? reader read folder name = some template)
    (rest : List (Except FileError FileName)) (registry : Registry T) :
    (addListed reader read folder (.ok fileName :: rest) registry).outcome =
      (addListed reader read folder rest (registry.add name template)).outcome := by
  simp only [addListed, hname, addFile_of_some h]

/-- A load ends at a file that cannot be read or is malformed. -/
theorem outcome_addListed_cons_of_broken {fileName : FileName} {name : String}
    (hname : templateName? fileName = some name)
    (h : fileTemplate? reader read folder name = none)
    (rest : List (Except FileError FileName)) (registry : Registry T) :
    ∃ e, (addListed reader read folder (.ok fileName :: rest) registry).outcome = .error e := by
  obtain ⟨e, he⟩ := addFile_of_none h registry
  exact ⟨e, by simp only [addListed, hname, he]⟩

/-! ### All files -/

/-- The entries that stop a load: one that the system fails to give, and a file of a template that
cannot be read or is malformed. -/
inductive Stops (reader : TemplateReader T) (read : String → Except FileError String)
    (folder : String) (entries : List (Except FileError FileName)) : Prop where
  | entry {e : FileError} (h : .error e ∈ entries)
  | file {name : String} (hname : HasFile entries name)
      (h : fileTemplate? reader read folder name = none)

/-- What is loaded from some entries over a registry: all of them were given, all of the files can
be read, and their templates take the place of those that were there under their names. -/
structure Gathers (reader : TemplateReader T) (read : String → Except FileError String)
    (folder : String) (entries : List (Except FileError FileName)) (before after : Registry T) :
    Prop where
  given : ∀ e, .error e ∉ entries
  found : ∀ name, HasFile entries name → ∃ template,
    fileTemplate? reader read folder name = some template ∧ after.find? name = some template
  kept : ∀ name, ¬HasFile entries name → after.find? name = before.find? name

/-- A file that is no template adds nothing to what is gathered. -/
theorem Gathers.cons_of_none {fileName : FileName} {entries : List (Except FileError FileName)}
    {before after : Registry T} (hname : templateName? fileName = none)
    (h : Gathers reader read folder entries before after) :
    Gathers reader read folder (.ok fileName :: entries) before after where
  given e := by simpa using h.given e
  found name hfile := by
    rw [hasFile_cons, hname] at hfile
    exact h.found name (hfile.resolve_left (by simp))
  kept name hfile := by
    rw [hasFile_cons, not_or] at hfile
    exact h.kept name hfile.2

/-- A file that was loaded first counts unless it is loaded again, and then it is the same. -/
theorem Gathers.cons_of_some {fileName : FileName} {name : String}
    {entries : List (Except FileError FileName)} {template : T} {before after : Registry T}
    (hname : templateName? fileName = some name)
    (htemplate : fileTemplate? reader read folder name = some template)
    (h : Gathers reader read folder entries (before.add name template) after) :
    Gathers reader read folder (.ok fileName :: entries) before after where
  given e := by simpa using h.given e
  found other hother := by
    by_cases hagain : HasFile entries other
    · exact h.found other hagain
    · rw [hasFile_cons, hname, Option.some.injEq] at hother
      obtain rfl := hother.resolve_right hagain
      refine ⟨template, htemplate, ?_⟩
      rw [h.kept name hagain, find?_add, if_pos rfl]
  kept other hother := by
    rw [hasFile_cons, hname, Option.some.injEq, not_or] at hother
    rw [h.kept other hother.2, find?_add, if_neg hother.1]

/-- One more entry does not undo what stops a load. -/
theorem Stops.cons {entries : List (Except FileError FileName)}
    (h : Stops reader read folder entries) (fileName : FileName) :
    Stops reader read folder (.ok fileName :: entries) := by
  rcases h with ⟨hentry⟩ | ⟨hname, hbroken⟩
  · exact .entry (List.mem_cons_of_mem _ hentry)
  · exact .file ((hasFile_cons ..).mpr (.inr hname)) hbroken

/-- All that loading can do: it gathers all entries, or it stops at one of them. -/
theorem addListed_cases (reader : TemplateReader T) (read : String → Except FileError String)
    (folder : String) (entries : List (Except FileError FileName)) (before : Registry T) :
    (∃ after, (addListed reader read folder entries before).outcome = .ok after ∧
      Gathers reader read folder entries before after) ∨
    (∃ e, (addListed reader read folder entries before).outcome = .error e) ∧
      Stops reader read folder entries := by
  induction entries generalizing before with
  | nil =>
    exact .inl ⟨before, rfl, fun e ↦ List.not_mem_nil,
      fun name h ↦ absurd h (hasFile_nil name), fun name _ ↦ rfl⟩
  | cons entry rest ih =>
    rcases entry with e | fileName
    · exact .inr ⟨⟨.unlistable e, rfl⟩, .entry List.mem_cons_self⟩
    rcases hname : templateName? fileName with _ | name
    · rw [addListed_cons_of_none hname]
      refine (ih before).imp ?_ (And.imp_right fun h ↦ h.cons fileName)
      rintro ⟨after, hafter, hgathers⟩
      exact ⟨after, hafter, hgathers.cons_of_none hname⟩
    · rcases htemplate : fileTemplate? reader read folder name with _ | template
      · exact .inr ⟨outcome_addListed_cons_of_broken hname htemplate rest before,
          .file ((hasFile_cons ..).mpr (.inl hname)) htemplate⟩
      · rw [outcome_addListed_cons_of_some hname htemplate]
        refine (ih (before.add name template)).imp ?_ (And.imp_right fun h ↦ h.cons fileName)
        rintro ⟨after, hafter, hgathers⟩
        exact ⟨after, hafter, hgathers.cons_of_some hname htemplate⟩

/-- A file whose name is not that of a template has no effect, wherever it is listed. -/
theorem addListed_append_cons {fileName : FileName}
    (h : ∀ name, name ≠ "" → fileName ≠ .ofText (name ++ ".hbs"))
    (before after : List (Except FileError FileName)) (registry : Registry T) :
    addListed reader read folder (before ++ .ok fileName :: after) registry =
      addListed reader read folder (before ++ after) registry := by
  have hname : templateName? fileName = none := by
    rw [Option.eq_none_iff_forall_not_mem]
    intro name hmem
    obtain ⟨hne, heq⟩ := templateName?_eq_some_iff.mp hmem
    exact h name hne heq
  induction before generalizing registry with
  | nil => exact addListed_cons_of_none hname after registry
  | cons first rest ih =>
    rcases first with e | first
    · rfl
    · simp only [List.cons_append, addListed, ih]

/-! ### Any order -/

/-- The entries can be in any order for what is gathered of them. -/
theorem Gathers.perm {entries order : List (Except FileError FileName)}
    {before after : Registry T} (horder : order.Perm entries)
    (h : Gathers reader read folder order before after) :
    Gathers reader read folder entries before after where
  given e hentry := h.given e (horder.mem_iff.mpr hentry)
  found name hname := h.found name ((hasFile_congr horder name).mpr hname)
  kept name hname := h.kept name fun horder' ↦ hname ((hasFile_congr horder name).mp horder')

/-- What stops a load stops it wherever it is listed. -/
theorem Stops.perm {entries order : List (Except FileError FileName)}
    (horder : order.Perm entries) (h : Stops reader read folder order) :
    Stops reader read folder entries := by
  rcases h with ⟨hentry⟩ | ⟨hname, hbroken⟩
  · exact .entry (horder.mem_iff.mp hentry)
  · exact .file ((hasFile_congr horder _).mp hname) hbroken

/-- The first of two orders in which loading gathers the entries leaves the templates that the
second does. -/
theorem Gathers.find?_eq {entries : List (Except FileError FileName)}
    {before after other : Registry T} (h : Gathers reader read folder entries before after)
    (hother : Gathers reader read folder entries before other) (name : String) :
    after.find? name = other.find? name := by
  by_cases hname : HasFile entries name
  · obtain ⟨template, htemplate, hfind⟩ := h.found name hname
    obtain ⟨second, hsecond, hfound⟩ := hother.found name hname
    rw [hfind, hfound, ← htemplate, hsecond]
  · rw [h.kept name hname, hother.kept name hname]

/-- A registry that a load starts from: the template for songs was read from its text. -/
theorem new_eq_ok_iff {registry : Registry T} :
    new reader = .ok registry ↔
      ∃ template, reader "asm" songText = .ok template ∧ registry = ⟨[("asm", template)]⟩ := by
  show (reader "asm" songText).map _ = _ ↔ _
  cases reader "asm" songText with
  | error reason => simp [Except.map]
  | ok template => simp [Except.map, eq_comm, defaultTemplate]

/-- What a load in any order comes to: it fails at the template for songs, at the folder or at one
of the entries, or it gathers them all. -/
theorem Loads.cases {listing : Listing} {loading : Loading T}
    (h : Loads reader read folder listing loading) :
    ((∃ e, loading.outcome = .error e) ∧
      ((∃ reason, new reader = .error reason) ∨ (∃ e, listing = .error e) ∨
        ∃ entries, listing = .ok entries ∧ Stops reader read folder entries)) ∨
    ∃ first entries registry, new reader = .ok first ∧ listing = .ok entries ∧
      loading.outcome = .ok registry ∧ Gathers reader read folder entries first registry := by
  rcases hnew : new reader with reason | first
  · refine .inl ⟨⟨.builtIn reason, ?_⟩, .inl ⟨reason, rfl⟩⟩
    cases h <;> simp only [ofListing, hnew]
  · cases h with
    | @failed e h =>
      refine .inl ⟨⟨.unreadableFolder folder e, ?_⟩, .inr (.inl ⟨e, h⟩)⟩
      simp only [ofListing, hnew]
    | @listed entries order h horder =>
      have hload : (ofListing reader read folder (.ok order)).outcome =
          (addListed reader read folder order first).outcome := by
        simp only [ofListing, hnew]
      rw [hload]
      rcases addListed_cases reader read folder order first with
        ⟨registry, hregistry, hgathers⟩ | ⟨herror, hstops⟩
      · exact .inr ⟨first, entries, registry, rfl, h, hregistry, hgathers.perm horder⟩
      · exact .inl ⟨herror, .inr (.inr ⟨entries, h, hstops.perm horder⟩)⟩

/-! ### The templates of a folder -/

/-- A folder can be loaded: the template for songs is well formed, all entries were given, and
every file of a template can be read and is well formed. -/
structure Loadable (reader : TemplateReader T) (read : String → Except FileError String)
    (folder : String) (entries : List (Except FileError FileName)) : Prop where
  builtIn : ∃ template, reader "asm" songText = .ok template
  given : ∀ entry ∈ entries, ∃ fileName, entry = .ok fileName
  file : ∀ name, HasFile entries name → ∃ text template,
    read (Path.join folder (name ++ ".hbs")) = .ok text ∧ reader name text = .ok template

/-- The templates after loading a folder: that of the file of a name, else the one for songs under
its name, else none. -/
structure Provides (reader : TemplateReader T) (read : String → Except FileError String)
    (folder : String) (entries : List (Except FileError FileName)) (registry : Registry T) :
    Prop where
  file : ∀ name, HasFile entries name → ∃ text template,
    read (Path.join folder (name ++ ".hbs")) = .ok text ∧ reader name text = .ok template ∧
      registry.find? name = some template
  builtIn : ¬HasFile entries "asm" → ∃ template, reader "asm" songText = .ok template ∧
    registry.find? "asm" = some template
  nothing : ∀ name, ¬HasFile entries name → name ≠ "asm" → registry.find? name = none

/-- Where a folder can be loaded, nothing in it stops a load. -/
theorem Loadable.not_stops {entries : List (Except FileError FileName)}
    (h : Loadable reader read folder entries) : ¬Stops reader read folder entries := by
  rintro (⟨hentry⟩ | ⟨hname, hbroken⟩)
  · obtain ⟨fileName, hfileName⟩ := h.given _ hentry
    cases hfileName
  · obtain ⟨text, template, hread, hreader⟩ := h.file _ hname
    rw [fileTemplate?_eq_some_iff.mpr ⟨text, hread, hreader⟩] at hbroken
    cases hbroken

/-- A folder whose entries were gathered can be loaded. -/
theorem Gathers.loadable {entries : List (Except FileError FileName)}
    {first registry : Registry T} (hnew : new reader = .ok first)
    (h : Gathers reader read folder entries first registry) :
    Loadable reader read folder entries where
  builtIn := by
    obtain ⟨template, htemplate, -⟩ := new_eq_ok_iff.mp hnew
    exact ⟨template, htemplate⟩
  given entry hentry := by
    rcases entry with e | fileName
    · exact absurd hentry (h.given e)
    · exact ⟨fileName, rfl⟩
  file name hname := by
    obtain ⟨template, htemplate, -⟩ := h.found name hname
    obtain ⟨text, hread, hreader⟩ := fileTemplate?_eq_some_iff.mp htemplate
    exact ⟨text, template, hread, hreader⟩

/-- What was gathered over a new registry is what the folder provides. -/
theorem Gathers.provides {entries : List (Except FileError FileName)}
    {first registry : Registry T} (hnew : new reader = .ok first)
    (h : Gathers reader read folder entries first registry) :
    Provides reader read folder entries registry := by
  obtain ⟨builtIn, hbuiltIn, rfl⟩ := new_eq_ok_iff.mp hnew
  have hfirst : ∀ name, find? ⟨[("asm", builtIn)]⟩ name =
      if "asm" = name then some builtIn else none :=
    fun name ↦ Json.member?_cons name "asm" builtIn []
  refine ⟨fun name hname ↦ ?_, fun hname ↦ ?_, fun name hname hasm ↦ ?_⟩
  · obtain ⟨template, htemplate, hfind⟩ := h.found name hname
    obtain ⟨text, hread, hreader⟩ := fileTemplate?_eq_some_iff.mp htemplate
    exact ⟨text, template, hread, hreader, hfind⟩
  · exact ⟨builtIn, hbuiltIn, by rw [h.kept "asm" hname, hfirst, if_pos rfl]⟩
  · rw [h.kept name hname, hfirst, if_neg (Ne.symm hasm)]

/-- A load in any order succeeds exactly if the folder can be listed and loaded. -/
theorem Loads.exists_ok_iff {listing : Listing} {loading : Loading T}
    (h : Loads reader read folder listing loading) :
    (∃ registry, loading.outcome = .ok registry) ↔
      ∃ entries, listing = .ok entries ∧ Loadable reader read folder entries := by
  rcases h.cases with ⟨⟨e, herror⟩, hcause⟩ | ⟨first, entries, registry, hnew, hlist, hok, hgathers⟩
  · rw [herror]
    refine ⟨fun ⟨_, hregistry⟩ ↦ (by cases hregistry), fun ⟨entries, hlist, hloadable⟩ ↦ ?_⟩
    exfalso
    rcases hcause with ⟨reason, hreason⟩ | ⟨e, hunlisted⟩ | ⟨others, hothers, hstops⟩
    · obtain ⟨template, htemplate⟩ := hloadable.builtIn
      rw [new_eq_ok_iff.mpr ⟨template, htemplate, rfl⟩] at hreason
      cases hreason
    · rw [hlist] at hunlisted
      cases hunlisted
    · obtain rfl : entries = others := Except.ok.inj (hlist.symm.trans hothers)
      exact hloadable.not_stops hstops
  · exact ⟨fun _ ↦ ⟨entries, hlist, hgathers.loadable hnew⟩, fun _ ↦ ⟨registry, hok⟩⟩

/-- A load that succeeded has gathered all entries over a new registry. -/
theorem Loads.gathers {listing : Listing} {loading : Loading T} {registry : Registry T}
    (h : Loads reader read folder listing loading) (hok : loading.outcome = .ok registry) :
    ∃ first entries, new reader = .ok first ∧ listing = .ok entries ∧
      Gathers reader read folder entries first registry := by
  rcases h.cases with ⟨⟨e, herror⟩, -⟩ | ⟨first, entries, found, hnew, hlist, hfound, hgathers⟩
  · rw [herror] at hok
    cases hok
  · obtain rfl : found = registry := Except.ok.inj (hfound.symm.trans hok)
    exact ⟨first, entries, hnew, hlist, hgathers⟩

/-- The name of a template file leads to a place of its own in every folder, unless it has a slash
in it. -/
theorem isProper_append {name : String} (h : '/' ∉ name.toList) :
    Path.IsProper (name ++ ".hbs") := by
  have hlast : (name ++ ".hbs").toList.getLast? = some 's' := by simp
  refine ⟨fun hmem ↦ ?_, by simpa using h⟩
  have hnone : ∀ other ∈ ["", ".", ".."], other.toList.getLast? ≠ some 's' := by decide
  exact hnone _ hmem hlast

/-- What is read at the path of a template file in a tree is what the folder holds under that
name. -/
theorem holds_of_listing {files : FileTree} {entries : List (Except FileError FileName)}
    {name text : String} (hlisting : files.listing folder = .ok entries)
    (hname : '/' ∉ name.toList)
    (h : files.readText (Path.join folder (name ++ ".hbs")) = .ok text) :
    files.Holds folder (name ++ ".hbs") text := by
  obtain ⟨names, hnames, -⟩ := eq_ok_of_map_eq_ok hlisting
  exact FileTree.holds_of_readText hnames (isProper_append hname) h

/-- Whatever a template is and however it is read, with any two orders in which the entries of a
folder may be listed loading fails in both or succeeds in both, with the same templates: those of
the files, and otherwise the one for songs. Files with other names have no effect, names that are
no texts among them. The folders of a tree are loaded in one of the orders, and the texts of the
files are those that the folder holds. -/
theorem Loads.templates_anyOrder {listing : Listing} {first second : Loading T}
    (hfirst : Loads reader read folder listing first)
    (hsecond : Loads reader read folder listing second) :
    ((∃ registry, first.outcome = .ok registry) ↔ ∃ registry, second.outcome = .ok registry) ∧
    ((∃ registry, first.outcome = .ok registry) ↔
      ∃ entries, listing = .ok entries ∧ Loadable reader read folder entries) ∧
    (∀ registry other, first.outcome = .ok registry → second.outcome = .ok other →
      (∀ name, registry.find? name = other.find? name) ∧
      ∃ entries, listing = .ok entries ∧ Provides reader read folder entries registry) ∧
    (∀ fileName, (∀ name, name ≠ "" → fileName ≠ .ofText (name ++ ".hbs")) → ∀ before after,
      ofListing reader read folder (.ok (before ++ .ok fileName :: after)) =
        ofListing reader read folder (.ok (before ++ after))) ∧
    ∀ files : FileTree,
      Loads reader files.readText folder (files.listing folder) (ofFolder reader files folder) ∧
      ∀ entries name text, files.listing folder = .ok entries → '/' ∉ name.toList →
        files.readText (Path.join folder (name ++ ".hbs")) = .ok text →
          files.Holds folder (name ++ ".hbs") text := by
  refine ⟨?_, hfirst.exists_ok_iff, ?_, ?_, fun files ↦ ⟨loads_ofFolder reader files folder, ?_⟩⟩
  · rw [hfirst.exists_ok_iff, hsecond.exists_ok_iff]
  · intro registry other hregistry hother
    obtain ⟨start, entries, hnew, hlist, hgathers⟩ := hfirst.gathers hregistry
    obtain ⟨again, others, hagain, hothers, hsame⟩ := hsecond.gathers hother
    obtain rfl : start = again := Except.ok.inj (hnew.symm.trans hagain)
    obtain rfl : entries = others := Except.ok.inj (hlist.symm.trans hothers)
    exact ⟨hgathers.find?_eq hsame, entries, hlist, hgathers.provides hnew⟩
  · intro fileName hname before after
    simp only [ofListing, addListed_append_cons hname]
  · exact fun entries name text hlisting hname h ↦ holds_of_listing hlisting hname h

/-- A folder with a template for songs, a name with two dots, a folder named like the extension,
which is no template, and a file with another extension. -/
def mixedFolder : FileTree where
  entries := [(["t"], .folder), (["t", "asm.hbs"], .file "x".toUTF8),
    (["t", "b.c.hbs"], .file "\x7b\x7b#if y\x7d\x7dz\x7b\x7b/if\x7d\x7d".toUTF8),
    (["t", ".hbs"], .folder), (["t", "notes.txt"], .file "n".toUTF8)]

/-- The names in that folder, and one with the extension of templates whose stem is no text. -/
def mixedNames : List (Except FileError FileName) :=
  [.ok (.ofText "asm.hbs"), .ok (.ofText "b.c.hbs"), .ok (.ofText ".hbs"),
    .ok (.ofText "notes.txt"), .ok ⟨[0xFF, 0x2E, 0x68, 0x62, 0x73]⟩]

/-- A reader for which every text is a template. -/
def plainReader : TemplateReader String :=
  fun _ text ↦ .ok text

/-- Listed in one order and in the other, the folder gives the same templates. The template with a
block in it is any text to this reader, and neither the name that is no text nor the folder named
like the extension has an effect. -/
theorem templates_anyOrder_mixedFolder :
    ∃ registry other,
      (ofListing plainReader mixedFolder.readText "t" (.ok mixedNames)).outcome = .ok registry ∧
      (ofListing plainReader mixedFolder.readText "t" (.ok mixedNames.reverse)).outcome =
        .ok other ∧
      (∀ name, registry.find? name = other.find? name) ∧
      other.find? "asm" = some "x" ∧
      other.find? "b.c" = some "\x7b\x7b#if y\x7d\x7dz\x7b\x7b/if\x7d\x7d" ∧
      other.find? "notes" = none := by
  have hfirst : Loads plainReader mixedFolder.readText "t" (.ok mixedNames)
      (ofListing plainReader mixedFolder.readText "t" (.ok mixedNames)) :=
    .listed rfl (List.Perm.refl mixedNames)
  have hsecond : Loads plainReader mixedFolder.readText "t" (.ok mixedNames)
      (ofListing plainReader mixedFolder.readText "t" (.ok mixedNames.reverse)) :=
    .listed rfl (List.reverse_perm mixedNames)
  obtain ⟨-, -, htemplates, -⟩ := hfirst.templates_anyOrder hsecond
  exact ⟨_, _, rfl, rfl, (htemplates _ _ rfl rfl).1, rfl, rfl, rfl⟩

end Registry

end StepSequencer
