import StepSequencer.Json.Mismatch

/-!
# Faults in JSON text

A `Fault` is a cause and the number of bytes before the place it is reported at. A place is
worded as a line, counted from one, and the number of bytes from the start of that line
(`placeOf`), so a newline itself belongs to column zero of the next line.
-/

set_option autoImplicit false
set_option relaxedAutoImplicit false

namespace StepSequencer.Json

/-- Why a text could not be read. -/
inductive Cause where
  | endInValue
  | endInList
  | endInObject
  | endInString
  | expectedColon
  | expectedListEnd
  | expectedObjectEnd
  | expectedWord
  | expectedValue
  | expectedQuote
  | expectedNumericKey
  | keyNotString
  | invalidEscape
  | invalidNumber
  | numberOutOfRange
  | controlCharacter
  | loneSurrogate
  | brokenSurrogatePair
  | trailingComma
  | trailingCharacters
  | tooDeep
  | mismatch (m : Mismatch)
deriving DecidableEq, Repr

/-- The words for a cause. -/
def Cause.message : Cause → String
  | .endInValue => "EOF while parsing a value"
  | .endInList => "EOF while parsing a list"
  | .endInObject => "EOF while parsing an object"
  | .endInString => "EOF while parsing a string"
  | .expectedColon => "expected `:`"
  | .expectedListEnd => "expected `,` or `]`"
  | .expectedObjectEnd => "expected `,` or `\x7d`"
  | .expectedWord => "expected ident"
  | .expectedValue => "expected value"
  | .expectedQuote => "expected `\"`"
  | .expectedNumericKey => "invalid value: expected key to be a number in quotes"
  | .keyNotString => "key must be a string"
  | .invalidEscape => "invalid escape"
  | .invalidNumber => "invalid number"
  | .numberOutOfRange => "number out of range"
  | .controlCharacter => "control character (\\u0000-\\u001F) found while parsing a string"
  | .loneSurrogate => "lone leading surrogate in hex escape"
  | .brokenSurrogatePair => "unexpected end of hex escape"
  | .trailingComma => "trailing comma"
  | .trailingCharacters => "trailing characters"
  | .tooDeep => "recursion limit exceeded"
  | .mismatch m => m.message

/-- A cause, and the number of bytes before the place it is reported at. -/
structure Fault where
  cause : Cause
  offset : Nat
deriving DecidableEq, Repr

/-- A place in a text: the line from one, and the bytes from its start. -/
structure Place where
  line : Nat
  column : Nat
deriving DecidableEq, Repr

/-- The place after a number of bytes, for a text that starts at a place. -/
def placeFrom : Place → List Char → Nat → Place
  | place, [], bytes => ⟨place.line, place.column + bytes⟩
  | place, c :: rest, bytes =>
    if bytes = 0 then place
    else if c = '\n' then placeFrom ⟨place.line + 1, 0⟩ rest (bytes - 1)
    else if bytes < c.utf8Size then ⟨place.line, place.column + bytes⟩
    else placeFrom ⟨place.line, place.column + c.utf8Size⟩ rest (bytes - c.utf8Size)

/-- The place after a number of bytes of a text. -/
def placeOf (text : String) (bytes : Nat) : Place :=
  placeFrom ⟨1, 0⟩ text.toList bytes

/-- The message for a fault in a text: the cause and its place. -/
def Fault.message (fault : Fault) (text : String) : String :=
  let place := placeOf text fault.offset
  fault.cause.message ++ " at line " ++ decimal place.line ++ " column " ++ decimal place.column

end StepSequencer.Json
