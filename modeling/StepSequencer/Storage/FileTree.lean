import StepSequencer.Storage.Path
import StepSequencer.Text.Order

/-!
# Files and folders

A `FileTree` is a value: the files and folders by the names that lead to them from the root, and
the folder that relative paths start from. Reading and writing follow a path name by name; every
name but the last must lead to a folder (`locate`). `FileError` says why a path could not be
used; in a `FileTree` the path alone decides this, and elsewhere a system may have reasons of its
own (`FileError.other`). A file holds bytes, and is text if they are UTF-8. Names and paths have a
greatest length, and no path has a null character in it.
-/

set_option autoImplicit false
set_option relaxedAutoImplicit false

namespace StepSequencer

/-- Why a path could not be used. -/
inductive FileError where
  | missing
  | present
  | notFolder
  | isFolder
  | tooLong
  | nullCharacter
  | notText
  | other (text : String)
deriving DecidableEq, Repr

/-- The message of an error. -/
def FileError.message : FileError → String
  | .missing => "No such file or directory (os error 2)"
  | .present => "File exists (os error 17)"
  | .notFolder => "Not a directory (os error 20)"
  | .isFolder => "Is a directory (os error 21)"
  | .tooLong => "File name too long (os error 36)"
  | .nullCharacter => "file name contained an unexpected NUL byte"
  | .notText => "stream did not contain valid UTF-8"
  | .other text => text

/-- A folder, or a file and its content. -/
inductive Node where
  | folder
  | file (content : ByteArray)

/-- The names that lead from the root to a file or folder. -/
abbrev Location : Type :=
  List String

/-- Files and folders by place, and the folder that relative paths start from. -/
structure FileTree where
  entries : List (Location × Node) := []
  home : Location := []

namespace FileTree

/-! ### Places -/

/-- What is found at a place. The root is always a folder. -/
def node? (tree : FileTree) (place : Location) : Option Node :=
  if place.isEmpty then some .folder
  else (tree.entries.find? fun entry ↦ entry.1 == place).map Prod.snd

/-- Puts a node at a place, instead of the one that is there. -/
def put (tree : FileTree) (place : Location) (node : Node) : FileTree :=
  { tree with entries := (place, node) :: tree.entries.filter fun other ↦ other.1 != place }

/-- The place that a name leads to. -/
def step (place : Location) (name : String) : Location :=
  if name = "." then place
  else if name = ".." then place.dropLast
  else place ++ [name]

/-- The greatest number of bytes in a name. -/
def nameLimit : Nat := 255

/-- The greatest number of bytes in a path. -/
def pathLimit : Nat := 4095

/-- What is found at a place whose last name is not too long. -/
def lookUp (tree : FileTree) (place : Location) : Except FileError (Option Node) :=
  match place.getLast? with
  | some name => if nameLimit < name.utf8ByteSize then .error .tooLong else .ok (tree.node? place)
  | none => .ok (tree.node? place)

/-- Follows names from a place. All but the last must lead to a folder. -/
def follow (tree : FileTree) : Location → List String → Except FileError Location
  | place, [] => .ok place
  | place, [name] => .ok (step place name)
  | place, name :: rest =>
    match tree.lookUp (step place name) with
    | .error e => .error e
    | .ok none => .error .missing
    | .ok (some (.file _)) => .error .notFolder
    | .ok (some .folder) => tree.follow (step place name) rest

/-- The place where a path starts. -/
def origin (tree : FileTree) (path : String) : Location :=
  if Path.isAbsolute path then [] else tree.home

/-- The names of a path that can be used as one. -/
def checkedNames (path : String) : Except FileError (List String) :=
  if path.toList.contains '\x00' then .error .nullCharacter
  else if pathLimit < path.utf8ByteSize then .error .tooLong
  else .ok (Path.names path)

/-- The place that a path leads to. -/
def locate (tree : FileTree) (path : String) : Except FileError Location :=
  match checkedNames path with
  | .error e => .error e
  | .ok names =>
    if path.isEmpty then .error .missing else tree.follow (tree.origin path) names

/-! ### Reading -/

/-- What a path leads to. -/
def find (tree : FileTree) (path : String) : Except FileError Node :=
  match tree.locate path with
  | .error e => .error e
  | .ok place =>
    match tree.lookUp place with
    | .error e => .error e
    | .ok none => .error .missing
    | .ok (some .folder) => .ok .folder
    | .ok (some (.file content)) =>
      if Path.isClosed path then .error .notFolder else .ok (.file content)

/-- Whether a path leads to a file or folder. -/
def has (tree : FileTree) (path : String) : Bool :=
  (tree.find path).isOk

/-- The text of a file. -/
def readText (tree : FileTree) (path : String) : Except FileError String :=
  match tree.find path with
  | .error e => .error e
  | .ok .folder => .error .isFolder
  | .ok (.file content) =>
    match String.fromUTF8? content with
    | some text => .ok text
    | none => .error .notText

/-- The names in a folder, in increasing order. -/
def list (tree : FileTree) (path : String) : Except FileError (List String) :=
  match tree.locate path with
  | .error e => .error e
  | .ok place =>
    match tree.lookUp place with
    | .error e => .error e
    | .ok none => .error .missing
    | .ok (some (.file _)) => .error .notFolder
    | .ok (some .folder) =>
      let names := tree.entries.filterMap fun entry ↦
        if entry.1.dropLast == place then entry.1.getLast? else none
      .ok (names.mergeSort fun a b ↦ !Text.precedes b a)

/-! ### Writing -/

/-- Writes bytes to a file, which is made if there is none. -/
def write (tree : FileTree) (path : String) (content : ByteArray) : Except FileError FileTree :=
  match tree.locate path with
  | .error e => .error e
  | .ok place =>
    if Path.isClosed path then .error .isFolder
    else match tree.lookUp place with
      | .error e => .error e
      | .ok (some .folder) => .error .isFolder
      | .ok _ => .ok (tree.put place (.file content))

/-- Writes text to a file. -/
def writeText (tree : FileTree) (path text : String) : Except FileError FileTree :=
  tree.write path text.toUTF8

/-- Follows names from a place and makes the folders that are missing. What was made before an
error stays. A file on the way is no folder; where a folder has been made (`made`), or at the
last name, it is in the way of one to be made. -/
def makeFoldersFrom (tree : FileTree) :
    Bool → Location → List String → Except FileError Unit × FileTree
  | _, _, [] => (.ok (), tree)
  | made, place, name :: rest =>
    let next := step place name
    match tree.lookUp next with
    | .error e => (.error e, tree)
    | .ok (some .folder) => tree.makeFoldersFrom made next rest
    | .ok (some (.file _)) =>
      (.error (if made || rest.isEmpty then .present else .notFolder), tree)
    | .ok none => (tree.put next .folder).makeFoldersFrom true next rest

/-- Makes the folder of a path and the folders above it, where they are missing. -/
def makeFolders (tree : FileTree) (path : String) : Except FileError Unit × FileTree :=
  match checkedNames path with
  | .error e => (.error e, tree)
  | .ok names => tree.makeFoldersFrom false (tree.origin path) names

end FileTree

end StepSequencer
