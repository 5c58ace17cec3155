/-!
# Blank characters and trimming

A character is blank when Unicode gives it the property `White_Space`: the five controls from
tabulation to carriage return, the space, the next-line control, the no-break space and the
typographic spaces and separators, 25 characters in all. `trim` removes them from both ends of
a text and touches nothing between; `isBlankText` says that nothing would be left.
-/

set_option autoImplicit false
set_option relaxedAutoImplicit false

namespace StepSequencer.Text

/-- The code points with the property `White_Space`. -/
def blankCodes : List Nat :=
  [0x09, 0x0A, 0x0B, 0x0C, 0x0D, 0x20, 0x85, 0xA0, 0x1680, 0x2000, 0x2001, 0x2002, 0x2003,
    0x2004, 0x2005, 0x2006, 0x2007, 0x2008, 0x2009, 0x200A, 0x2028, 0x2029, 0x202F, 0x205F,
    0x3000]

/-- Whether a character is white space. -/
def isBlank (c : Char) : Bool :=
  blankCodes.contains c.toNat

/-- The characters that remain when the blank ones at both ends are dropped. -/
def trimChars (chars : List Char) : List Char :=
  ((chars.dropWhile isBlank).reverse.dropWhile isBlank).reverse

/-- The text without the blank characters at its ends. -/
def trim (text : String) : String :=
  String.ofList (trimChars text.toList)

/-- Whether a text holds blank characters only. -/
def isBlankText (text : String) : Bool :=
  text.toList.all isBlank

end StepSequencer.Text
