/-!
# Names of files

A system names the files of a folder by bytes, which need not be those of a text. The last dot of
a name divides it into a stem and an extension, unless it is the first byte of the name.
-/

set_option autoImplicit false
set_option relaxedAutoImplicit false

namespace StepSequencer

/-- The name of a file in a folder. -/
structure FileName where
  bytes : List UInt8
deriving DecidableEq, Repr

namespace FileName

/-- The name that is written as a text. -/
def ofText (text : String) : FileName :=
  ⟨text.toUTF8.data.toList⟩

/-- The text of a name, if its bytes are those of one. -/
def text? (name : FileName) : Option String :=
  String.fromUTF8? ⟨name.bytes.toArray⟩

/-- The byte of a dot. -/
def dot : UInt8 := 0x2E

/-- The stem and the extension of a name. -/
def splitExtension? (name : FileName) : Option (FileName × FileName) :=
  let reversed := name.bytes.reverse
  let extension := reversed.takeWhile (· ≠ dot)
  match reversed.drop (extension.length + 1) with
  | [] => none
  | stem => some (⟨stem.reverse⟩, ⟨extension.reverse⟩)

end FileName

end StepSequencer
