import StepSequencer.Storage.FileName
import StepSequencer.Storage.FileTree
import StepSequencer.Template.Reader
import StepSequencer.Template.Registry

/-!
# Templates in a folder

Every file of a folder whose extension is that of templates is a template, under its stem, and
replaces a template of that name. Files with another extension, one whose whole name is the
extension, and those with a stem that is no text do not count.

A folder is given by what a system says of it: the entries it lists, some of which it may fail to
give, and the text it reads at a path. `Registry.ofFolder` takes both from a tree of files.
-/

set_option autoImplicit false
set_option relaxedAutoImplicit false

namespace StepSequencer

/-- Why templates could not be loaded. -/
inductive TemplateError where
  | builtIn (reason : String)
  | unreadableFolder (path : String) (error : FileError)
  | unlistable (error : FileError)
  | unreadable (path : String) (error : FileError)
  | malformed (path reason : String)
deriving DecidableEq, Repr

namespace TemplateError

/-- The message of an error, without its reason. -/
def message : TemplateError → String
  | .builtIn _ => "Failed to register built-in asm template"
  | .unreadableFolder path _ => "Failed to read template directory: " ++ path
  | .unlistable error => error.message
  | .unreadable path _ => "Failed to read template: " ++ path
  | .malformed path _ => "Failed to parse template: " ++ path

/-- The reason of an error, if its message is not all there is to say. -/
def reason? : TemplateError → Option String
  | .builtIn reason => some reason
  | .unreadableFolder _ error => some error.message
  | .unlistable _ => none
  | .unreadable _ error => some error.message
  | .malformed _ reason => some reason

/-- The messages of an error, outermost first. -/
def chain (error : TemplateError) : List String :=
  error.message :: error.reason?.toList

end TemplateError

/-- The extension of template files. -/
def templateExtension : String := "hbs"

/-- The name of the template in a file of a name, if it is one. -/
def templateName? (fileName : FileName) : Option String :=
  match fileName.splitExtension? with
  | some (stem, extension) =>
    if extension.text? = some templateExtension then stem.text? else none
  | none => none

/-- The path of the file of a template in a folder. -/
def templatePath (folder name : String) : String :=
  Path.join folder (name ++ "." ++ templateExtension)

/-- What a system lists in a folder: its entries, each of which may fail, or that it has none to
give. -/
abbrev Listing := Except FileError (List (Except FileError FileName))

/-- The entries of a folder in a tree. -/
def FileTree.listing (files : FileTree) (folder : String) : Listing :=
  (files.list folder).map fun names ↦ names.map fun name ↦ .ok (.ofText name)

/-- What came of loading templates: the names and paths of those that were read, and the
registry or the first error. -/
structure Loading (T : Type) where
  registered : List (String × String)
  outcome : Except TemplateError (Registry T)

namespace Registry

variable {T : Type}

/-- The registry with the template of a file under a name. -/
def addFile (reader : TemplateReader T) (read : String → Except FileError String)
    (registry : Registry T) (name path : String) : Except TemplateError (Registry T) :=
  match read path with
  | .error e => .error (.unreadable path e)
  | .ok text =>
    match reader name text with
    | .error reason => .error (.malformed path reason)
    | .ok template => .ok (registry.add name template)

/-- Adds the templates among the entries of a folder, in their order. -/
def addListed (reader : TemplateReader T) (read : String → Except FileError String)
    (folder : String) : List (Except FileError FileName) → Registry T → Loading T
  | [], registry => ⟨[], .ok registry⟩
  | .error e :: _, _ => ⟨[], .error (.unlistable e)⟩
  | .ok fileName :: rest, registry =>
    match templateName? fileName with
    | none => addListed reader read folder rest registry
    | some name =>
      let path := templatePath folder name
      match registry.addFile reader read name path with
      | .error e => ⟨[], .error e⟩
      | .ok registry =>
        let later := addListed reader read folder rest registry
        ⟨(name, path) :: later.registered, later.outcome⟩

/-- The registry with the templates of a folder that a system lists and reads. -/
def ofListing (reader : TemplateReader T) (read : String → Except FileError String)
    (folder : String) (listing : Listing) : Loading T :=
  match new reader with
  | .error reason => ⟨[], .error (.builtIn reason)⟩
  | .ok registry =>
    match listing with
    | .error e => ⟨[], .error (.unreadableFolder folder e)⟩
    | .ok entries => addListed reader read folder entries registry

/-- The registry with the templates of a folder in a tree. -/
def ofFolder (reader : TemplateReader T) (files : FileTree) (folder : String) : Loading T :=
  ofListing reader files.readText folder (files.listing folder)

end Registry

end StepSequencer
