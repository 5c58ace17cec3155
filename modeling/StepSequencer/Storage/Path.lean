import StepSequencer.Text.Split

/-!
# Paths

A path is text whose names are divided by slashes; it starts at the root if it starts with a
slash. Two names have a meaning of their own: a single dot is the folder reached so far, and two
dots are the folder above it. `parent?` cuts the last name off, and slashes and single dots at
the end do not count as names.
-/

set_option autoImplicit false
set_option relaxedAutoImplicit false

namespace StepSequencer.Path

/-- The names of a path. -/
def names (path : String) : List String :=
  ((Text.split '/' path.toList).filter fun name ↦ !name.isEmpty).map String.ofList

/-- Whether a path starts at the root. -/
def isAbsolute (path : String) : Bool :=
  path.toList.head? = some '/'

/-- Whether a path ends in a slash, so that it can only name a folder. -/
def isClosed (path : String) : Bool :=
  path.toList.getLast? = some '/'

/-- Drops slashes and single dots from the end of a path, given its last character first. The
slash of the root stays, and so does a dot that is the whole path. -/
def trimBack : List Char → List Char
  | [] => []
  | '/' :: rest => if rest.isEmpty then ['/'] else trimBack rest
  | '.' :: '/' :: rest => if rest.isEmpty then ['/'] else trimBack rest
  | text => text

/-- The path without its last name; none for the root and the empty path. -/
def parent? (path : String) : Option String :=
  let text := trimBack path.toList.reverse
  if text.isEmpty || text = ['/'] then none
  else some (String.ofList (trimBack (text.dropWhile (· ≠ '/'))).reverse)

/-- The path of a name in a folder. -/
def join (folder name : String) : String :=
  if folder.isEmpty || isClosed folder then folder ++ name else folder ++ "/" ++ name

end StepSequencer.Path
