import Std.Time.DateTime.Timestamp
import StepSequencer.Command.Run

/-!
# The program

Reads the files that a run may use into a `FileTree`, runs it, and writes back what changed.
-/

set_option autoImplicit false
set_option relaxedAutoImplicit false

namespace StepSequencer

/-- The places that a path leads through. -/
def FileTree.placesOf (tree : FileTree) (path : String) : List Location :=
  ((Path.names path).foldl (fun (place, places) name ↦
    (step place name, step place name :: places)) (tree.origin path, [])).2.reverse

/-- The paths that a command may read or write, and the folder it may list. -/
def Command.paths : Command → List String × Option String
  | .validate _ file => (file.toList, none)
  | .compile _ file options =>
    (file.toList ++ [options.notes] ++ options.folder.toList ++ options.output.toList,
      options.folder)
  | _ => ([], none)

/-- The absolute path of a place. -/
def pathOf (place : Location) : String :=
  "/" ++ "/".intercalate place

/-- Adds what is found at a place. -/
def loadPlace (tree : FileTree) (place : Location) : IO FileTree := do
  let path := (← IO.currentDir) / pathOf place
  if place.isEmpty || (tree.node? place).isSome then return tree
  else if ← path.isDir then return tree.put place .folder
  else if ← path.pathExists then return tree.put place (.file (← IO.FS.readBinFile path))
  else return tree

/-- Adds what is found on the way of a path. -/
def loadPath (tree : FileTree) (path : String) : IO FileTree :=
  (tree.placesOf path).foldlM loadPlace tree

/-- Adds what is found in a folder. -/
def loadFolder (tree : FileTree) (folder : String) : IO FileTree := do
  match tree.find folder with
  | .ok .folder =>
    let entries ← ((← IO.currentDir) / folder).readDir
    entries.foldlM (fun tree entry ↦ loadPath tree (Path.join folder entry.fileName)) tree
  | _ => return tree

/-- Whether a node was there before. -/
def isSame : Option Node → Node → Bool
  | some .folder, .folder => true
  | some (.file old), .file new => old.toList == new.toList
  | _, _ => false

/-- Writes the files and makes the folders that were not there before. -/
def store (before after : FileTree) : IO Unit :=
  for (place, node) in after.entries.reverse do
    if !isSame (before.node? place) node then
      match node with
      | .folder => IO.FS.createDirAll (pathOf place)
      | .file content => IO.FS.writeBinFile (pathOf place) content

/-- The variables that a run may look up. -/
def variableNames : List String :=
  ["SLOCUM_LIBRARY", "SLOCUM_NOTES", "XDG_DATA_HOME", "HOME", "RUST_LOG", "NO_COLOR", "CLICOLOR",
    "CLICOLOR_FORCE"]

/-- What a run finds around it. -/
def surroundings : IO Host := do
  let settings ← variableNames.filterMapM fun name ↦ do
    return (← IO.getEnv name).map fun value ↦ (name, value)
  let now ← Std.Time.Timestamp.now
  let noise ← IO.getRandomBytes 4
  let number := noise.toList.foldl (fun number byte ↦ 256 * number + byte.toNat) 0
  return {
    lookup := fun name ↦ Json.member? name settings
    now := Int64.ofInt now.toMillisecondsSinceUnixEpoch.val
    suffix := firstSuffix + number % (lastSuffix + 1 - firstSuffix)
    terminal := ← (← IO.getStdout).isTty
    errorTerminal := ← (← IO.getStderr).isTty }

/-- The files that a run may use. -/
def loadFiles (host : Host) (arguments : List String) : IO FileTree := do
  let tree : FileTree := { home := Path.names (← IO.currentDir).toString }
  let tree ← ((List.range (tree.home.length + 1)).map tree.home.take).foldlM loadPlace tree
  match Invocation.parse host.lookup arguments with
  | .ok (.run invocation) =>
    let (paths, folder) := invocation.command.paths
    let library := invocation.library.getD (defaultLibrary host.lookup)
    let tree ← (library :: paths).foldlM loadPath tree
    match folder with
    | some folder => loadFolder tree folder
    | none => return tree
  | _ => return tree

/-- The pattern of times in the log. -/
def logPattern : Calendar.TimePattern :=
  ⟨Calendar.dashDate ++ [.literal 'T'] ++ Calendar.clock ++
    [.literal '.', .fraction 6, .literal 'Z']⟩

end StepSequencer

/-- Runs the program with its arguments. -/
def main (arguments : List String) : IO UInt32 := do
  let host ← StepSequencer.surroundings
  let files ← StepSequencer.loadFiles host arguments
  let outcome := StepSequencer.run host files arguments
  StepSequencer.store files outcome.files
  IO.print outcome.output
  IO.eprint (outcome.errors (StepSequencer.LogFilter.ofVariable (host.lookup "RUST_LOG"))
    (StepSequencer.Ink.ofLogVariables host.lookup) (StepSequencer.logPattern.format host.now))
  return UInt32.ofNat outcome.code
