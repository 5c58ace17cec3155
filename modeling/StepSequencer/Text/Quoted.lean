import StepSequencer.Text.Printable

/-!
# Quoted text in messages

`quoted` puts a text between double quotes so that it can be read off a message: quotes and
backslashes are escaped, the four common controls have a letter, and every other character that
is not plain is written as its code point in hexadecimal. An apostrophe stands as it is.
-/

set_option autoImplicit false
set_option relaxedAutoImplicit false

namespace StepSequencer.Text

/-- The written form of one character inside double quotes. -/
def quotedChar (c : Char) : List Char :=
  if c = '"' then ['\\', '"']
  else if c = '\\' then ['\\', '\\']
  else if c = '\n' then ['\\', 'n']
  else if c = '\r' then ['\\', 'r']
  else if c = '\t' then ['\\', 't']
  else if c = '\x00' then ['\\', '0']
  else if isPlain c then [c]
  else ['\\', 'u', '{'] ++ Nat.toDigits 16 c.toNat ++ ['}']

/-- The text between double quotes, with all but plain characters escaped. -/
def quoted (text : String) : String :=
  String.ofList (['"'] ++ text.toList.flatMap quotedChar ++ ['"'])

end StepSequencer.Text
