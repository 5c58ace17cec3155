import StepSequencer.Library
import StepSequencer.Tone.Json

/-!
# Where songs and note tables come from

A song comes from the library, by its identifier, or from a file of its own. `InputError.chain`
words an error as a list of messages, each the reason of the one before it. Some messages already
end in their reason, which then follows once more.
-/

set_option autoImplicit false
set_option relaxedAutoImplicit false

namespace StepSequencer

/-- Why a song was not named properly. -/
inductive SourceError where
  | both
  | neither
deriving DecidableEq, Repr

/-- The message of an error. -/
def SourceError.message : SourceError → String
  | .both => "give either a song id or --file, not both"
  | .neither => "no song given (pass a song id or --file)"

/-- Where a song comes from. -/
inductive SongSource where
  | stored (library id : String)
  | file (path : String)
deriving DecidableEq, Repr

/-- Why a song or a note table could not be loaded. -/
inductive InputError where
  | library (error : LibraryError)
  | unknownSong (id path : String)
  | unreadableSong (path : String) (error : FileError)
  | malformedSong (path : String) (error : SongError)
  | unreadableNotes (path : String) (error : FileError)
  | malformedNotes (path text : String) (fault : Json.Fault)

/-- The messages of an error, each the reason of the one before it. -/
def InputError.chain : InputError → List String
  | .library error => error.message :: error.reason?.toList
  | .unknownSong id path => ["no song with id '" ++ id ++ "' in " ++ path]
  | .unreadableSong path error => ["Failed to read song file: " ++ path, error.message]
  | .malformedSong path error =>
    ["Failed to parse song file: " ++ path, error.message, error.reason]
  | .unreadableNotes path error => ["Failed to read note table: " ++ path, error.message]
  | .malformedNotes path text fault =>
    ["Failed to parse note table: " ++ path, fault.message text]

namespace SongSource

/-- The source for a song that may be named by an identifier or by a file. -/
def ofArguments (library : String) : Option String → Option String → Except SourceError SongSource
  | some id, none => .ok (.stored library id)
  | none, some path => .ok (.file path)
  | some _, some _ => .error .both
  | none, none => .error .neither

/-- The words for a source. -/
def describe : SongSource → String
  | .stored _ id => "song " ++ id
  | .file path => path

/-- Loads the song of a source. -/
def load (files : FileTree) : SongSource → Except InputError Song
  | .stored path id =>
    match Library.load files path with
    | .error e => .error (.library e)
    | .ok library =>
      match library.get? id with
      | none => .error (.unknownSong id path)
      | some song => .ok song
  | .file path =>
    match files.readText path with
    | .error e => .error (.unreadableSong path e)
    | .ok text =>
      match Song.ofJson text with
      | .error e => .error (.malformedSong path e)
      | .ok song => .ok song

end SongSource

/-- Loads the note table of a file. -/
def NoteTable.load (files : FileTree) (path : String) : Except InputError NoteTable :=
  match files.readText path with
  | .error e => .error (.unreadableNotes path e)
  | .ok text =>
    match NoteTable.ofJson text with
    | .error fault => .error (.malformedNotes path text fault)
    | .ok table => .ok table

end StepSequencer
