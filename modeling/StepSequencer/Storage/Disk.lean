import StepSequencer.Storage.FileTree

/-!
# Disks

A `Disk` is what a library is written through: folders are made on it, and texts are written to
it. Either may fail, for any reason and at any point, and leaves some files behind; a write that
fails may have opened and emptied its file before. A `FileTree` is a disk on which the path alone
decides what fails, and on which a write that fails changes nothing.
-/

set_option autoImplicit false
set_option relaxedAutoImplicit false

namespace StepSequencer

/-- Making folders and writing text, and the files that are left, also after a failure. -/
structure Disk (Files : Type) where
  makeFolders : Files → String → Except FileError Unit × Files
  writeText : Files → String → String → Except FileError Unit × Files

/-- A tree of files as a disk. -/
def FileTree.disk : Disk FileTree where
  makeFolders := FileTree.makeFolders
  writeText tree path text :=
    match tree.writeText path text with
    | .error e => (.error e, tree)
    | .ok next => (.ok (), next)

end StepSequencer
