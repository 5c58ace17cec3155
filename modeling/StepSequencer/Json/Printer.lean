import StepSequencer.Json.Value

/-!
# JSON text of a value

`compact` writes a value without blanks. `pretty` writes every element and member on a line of
its own, indented by two spaces a level; an empty array or object stays `[]` or `{}`. Members
are written in the order in which the value holds them. In strings, quotes, backslashes and
controls are escaped, five of the controls with a letter; all else stands as it is.
-/

set_option autoImplicit false
set_option relaxedAutoImplicit false

namespace StepSequencer.Json

/-! ### Leaves -/

/-- One character inside a string. -/
def charText (c : Char) : List Char :=
  if c = '"' then ['\\', '"']
  else if c = '\\' then ['\\', '\\']
  else if c = '\x08' then ['\\', 'b']
  else if c = '\x0c' then ['\\', 'f']
  else if c = '\n' then ['\\', 'n']
  else if c = '\r' then ['\\', 'r']
  else if c = '\t' then ['\\', 't']
  else if c.toNat < 0x20 then
    ['\\', 'u', '0', '0', Nat.digitChar (c.toNat / 16), Nat.digitChar (c.toNat % 16)]
  else [c]

/-- A string between quotes. -/
def stringText (s : String) : List Char :=
  '"' :: s.toList.flatMap charText ++ ['"']

/-- An integer in decimal. -/
def intText : Int → List Char
  | .ofNat n => Nat.toDigits 10 n
  | .negSucc n => '-' :: Nat.toDigits 10 (n + 1)

/-- A number. -/
def numberText : Number → List Char
  | .integer n => intText n
  | .float x => (Decimal.messageLayout.text x).toList

/-- A truth value. -/
def boolText (b : Bool) : List Char :=
  if b then ['t', 'r', 'u', 'e'] else ['f', 'a', 'l', 's', 'e']

/-- The null value. -/
def nullText : List Char :=
  ['n', 'u', 'l', 'l']

/-- Texts with a separator between neighbours. -/
def separated (separator : List Char) : List (List Char) → List Char
  | [] => []
  | [text] => text
  | text :: next :: rest => text ++ separator ++ separated separator (next :: rest)

/-! ### Without blanks -/

mutual

/-- The text of a value without blanks. -/
def compactText : Value → List Char
  | .null => nullText
  | .bool b => boolText b
  | .number n => numberText n
  | .string s => stringText s
  | .array elements => '[' :: separated [','] (compactElements elements) ++ [']']
  | .object members => '{' :: separated [','] (compactMembers members) ++ ['}']

/-- The texts of some values. -/
def compactElements : List Value → List (List Char)
  | [] => []
  | value :: rest => compactText value :: compactElements rest

/-- The texts of some members. -/
def compactMembers : List (String × Value) → List (List Char)
  | [] => []
  | (key, value) :: rest => (stringText key ++ ':' :: compactText value) :: compactMembers rest

end

/-- The text of a value without blanks. -/
def Value.compact (value : Value) : String :=
  String.ofList (compactText value)

/-! ### On lines of their own -/

/-- The start of a line at a level. -/
def newLine (level : Nat) : List Char :=
  '\n' :: List.replicate (2 * level) ' '

/-- Items between brackets, each on a line of its own one level deeper. -/
def bracketed (level : Nat) (left right : Char) : List (List Char) → List Char
  | [] => [left, right]
  | items =>
    left :: newLine (level + 1) ++ separated (',' :: newLine (level + 1)) items ++
      newLine level ++ [right]

mutual

/-- The text of a value that stands at a level. -/
def prettyText (level : Nat) : Value → List Char
  | .null => nullText
  | .bool b => boolText b
  | .number n => numberText n
  | .string s => stringText s
  | .array elements => bracketed level '[' ']' (prettyElements (level + 1) elements)
  | .object members => bracketed level '{' '}' (prettyMembers (level + 1) members)

/-- The texts of some values at a level. -/
def prettyElements (level : Nat) : List Value → List (List Char)
  | [] => []
  | value :: rest => prettyText level value :: prettyElements level rest

/-- The texts of some members at a level. -/
def prettyMembers (level : Nat) : List (String × Value) → List (List Char)
  | [] => []
  | (key, value) :: rest =>
    (stringText key ++ ':' :: ' ' :: prettyText level value) :: prettyMembers level rest

end

/-- The text of a value on indented lines. -/
def Value.pretty (value : Value) : String :=
  String.ofList (prettyText 0 value)

end StepSequencer.Json
