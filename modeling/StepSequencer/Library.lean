import StepSequencer.Song.Json
import StepSequencer.Song.Schema
import StepSequencer.Storage.Disk

/-!
# The library of songs

A library is a file with a JSON array of songs. It holds them in the order in which they were
saved; several may have one identifier, of which the last counts. Saving a song removes those
with its identifier and puts it at the end. Every change is written to the file at once, and the
list in memory keeps a change also when writing fails. A library can be written through any
`Disk`; `save` and `delete` are the calls on a `FileTree`.

A song without an identifier gets one when it is saved: the instant in decimal digits, and a
number from `firstSuffix` up to `lastSuffix` in hexadecimal digits.
-/

set_option autoImplicit false
set_option relaxedAutoImplicit false

namespace StepSequencer

open Json (Value)

/-! ### Identifiers -/

/-- The least number that may end an identifier. -/
def firstSuffix : Nat := 0x10000

/-- The greatest number that may end an identifier. -/
def lastSuffix : Nat := 0x1ffff

/-- The identifier made of an instant and a number. -/
def songId (now : Int64) (suffix : Nat) : String :=
  Json.decimal now.toInt ++ String.ofList (Nat.toDigits 16 suffix)

/-! ### Errors -/

/-- Why a library could not be opened or written. -/
inductive LibraryError where
  | unreachable (path : String) (error : FileError)
  | notJson (path text : String) (fault : Json.Fault)
  | notArray (path : String)
  | malformed (position : Nat) (error : SchemaError)

namespace LibraryError

/-- The reason of an error, if it has one besides itself. -/
def reason? : LibraryError → Option String
  | .unreachable _ error => some error.message
  | .notJson _ text fault => some (fault.message text)
  | .notArray _ => none
  | .malformed _ error => some error.message

/-- The message of an error. -/
def message : LibraryError → String
  | .unreachable path error => "failed to access " ++ path ++ ": " ++ error.message
  | .notJson path text fault =>
    "library " ++ path ++ " is not valid JSON: " ++ fault.message text
  | .notArray path => "library " ++ path ++ " must contain a JSON array of songs"
  | .malformed position error =>
    "song " ++ Json.decimal position ++ " in library is malformed: " ++ error.message

end LibraryError

/-! ### Opening -/

/-- Songs and the file they are kept in. -/
structure Library where
  path : String
  songs : List Song
deriving DecidableEq, Repr

/-- What came of a change: its result, the library in memory, and the files. -/
structure Change (α : Type) (Files : Type := FileTree) where
  result : Except LibraryError α
  library : Library
  files : Files

namespace Library

/-- The songs of some values, of which the first has a position. -/
def decodeSongs : Nat → List Value → Except LibraryError (List Song)
  | _, [] => .ok []
  | position, value :: rest =>
    match Song.ofValue value with
    | .error e => .error (.malformed position e)
    | .ok song =>
      match decodeSongs (position + 1) rest with
      | .error e => .error e
      | .ok songs => .ok (song :: songs)

/-- The songs in the text of a library. -/
def ofText (path text : String) : Except LibraryError (List Song) :=
  match Json.parse text with
  | .error fault => .error (.notJson path text fault)
  | .ok (.array values) => decodeSongs 0 values
  | .ok _ => .error (.notArray path)

/-- Opens the library of a path; where nothing is found it is empty. -/
def load (files : FileTree) (path : String) : Except LibraryError Library :=
  if files.has path then
    match files.readText path with
    | .error e => .error (.unreachable path e)
    | .ok text =>
      match ofText path text with
      | .error e => .error e
      | .ok songs => .ok ⟨path, songs⟩
  else .ok ⟨path, []⟩

/-! ### Songs by identifier -/

/-- Whether a song has an identifier. -/
def named (id : String) (song : Song) : Bool :=
  song.id == some id

/-- The last song with an identifier. -/
def get? (library : Library) (id : String) : Option Song :=
  library.songs.reverse.find? (named id)

/-- The library with a song under an identifier, in place of those that have it. -/
def put (library : Library) (id : String) (song : Song) (now : Int64) : Library :=
  { library with
    songs := (library.songs.filter fun other ↦ !named id other) ++
      [{ song with id := some id, info := { song.info with modified := now } }] }

/-- The library without the last song with an identifier. -/
def erase (library : Library) (id : String) : Library :=
  { library with songs := (library.songs.reverse.eraseP (named id)).reverse }

/-! ### Writing -/

/-- The text of a library. -/
def text (library : Library) : String :=
  (Value.array (library.songs.map Song.encode)).pretty

section Calls

variable {Files : Type}

/-- Writes the library to its file on a disk, and makes the folders above it where they are
missing. -/
def persistOn (disk : Disk Files) (library : Library) (files : Files) :
    Except LibraryError Unit × Files :=
  let folder := (Path.parent? library.path).getD ""
  match disk.makeFolders files folder with
  | (.error e, files) => (.error (.unreachable folder e), files)
  | (.ok (), files) =>
    match disk.writeText files library.path library.text with
    | (.error e, files) => (.error (.unreachable library.path e), files)
    | (.ok (), files) => (.ok (), files)

/-- The identifier under which a song is saved. -/
def idFor (song : Song) (now : Int64) (suffix : Nat) : String :=
  song.id.getD (songId now suffix)

/-- Saves a song on a disk at an instant and gives its identifier, for which a number is at
hand. -/
def saveOn (disk : Disk Files) (library : Library) (files : Files) (song : Song) (now : Int64)
    (suffix : Nat) : Change String Files :=
  let id := idFor song now suffix
  let library := library.put id song now
  match library.persistOn disk files with
  | (.error e, files) => ⟨.error e, library, files⟩
  | (.ok (), files) => ⟨.ok id, library, files⟩

/-- Deletes the last song with an identifier on a disk, and says whether there was one. -/
def deleteOn (disk : Disk Files) (library : Library) (files : Files) (id : String) :
    Change Bool Files :=
  if library.songs.any (named id) then
    let library := library.erase id
    match library.persistOn disk files with
    | (.error e, files) => ⟨.error e, library, files⟩
    | (.ok (), files) => ⟨.ok true, library, files⟩
  else ⟨.ok false, library, files⟩

end Calls

/-- Writes the library to a tree of files. -/
def persist (library : Library) (files : FileTree) : Except LibraryError Unit × FileTree :=
  library.persistOn FileTree.disk files

/-- Saves a song in a tree of files. -/
def save (library : Library) (files : FileTree) (song : Song) (now : Int64) (suffix : Nat) :
    Change String :=
  library.saveOn FileTree.disk files song now suffix

/-- Deletes the last song with an identifier in a tree of files. -/
def delete (library : Library) (files : FileTree) (id : String) : Change Bool :=
  library.deleteOn FileTree.disk files id

end Library

end StepSequencer
