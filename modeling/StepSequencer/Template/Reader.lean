import StepSequencer.Template.Basic

/-!
# Reading templates

A tag stands between two pairs of braces. It is a reference, also with a third pair of braces or
behind an ampersand, or a comment, which starts with an exclamation mark and ends at the first
closing braces, or at the first ones right behind two dashes if two dashes stand at its start and
there are any such. Nothing else is a tag, and a text with an opening pair of braces that starts
no tag is no template (`Template.parse?`). A backslash before opening braces makes them text; of
several backslashes there one is dropped.

A comment leaves nothing behind. If it stands alone on a line that ends, the line goes with it.
-/

set_option autoImplicit false
set_option relaxedAutoImplicit false

namespace StepSequencer.Template

/-! ### Tags -/

/-- A blank between the parts of a tag. -/
def isTagGap (c : Char) : Bool :=
  c = ' ' || c = '\t' || c = '\n' || c = '\r'

/-- A character of a name: a letter or digit, an underscore, dollar or dash, or any character
outside ASCII. -/
def isNameChar (c : Char) : Bool :=
  c.isAlphanum || c = '_' || c = '$' || c = '-' || 128 ≤ c.toNat

/-- Drops blanks. -/
def skipTagGaps (text : List Char) : List Char :=
  text.dropWhile isTagGap

/-- The text behind a word. -/
def behind? : List Char → List Char → Option (List Char)
  | [], text => some text
  | _ :: _, [] => none
  | w :: word, c :: text => if w = c then behind? word text else none

/-- The text behind the first occurrence of a word. -/
def behindFirst? (word : List Char) : List Char → Option (List Char)
  | [] => behind? word []
  | c :: text =>
    match behind? word (c :: text) with
    | some rest => some rest
    | none => behindFirst? word text

/-- A path at the start of a text, and what follows it. -/
def readPath? (text : List Char) : Option (String × List Char) :=
  let path := text.takeWhile fun c ↦ isNameChar c || c = '.'
  if (Text.split '.' path).any List.isEmpty then none
  else some (String.ofList path, text.drop path.length)

/-- A path in blanks before a closing word, and what follows that. -/
def readClosed? (closing text : List Char) : Option (String × List Char) := do
  let (path, rest) ← readPath? (skipTagGaps text)
  let rest ← behind? closing (skipTagGaps rest)
  return (path, rest)

/-- A tag: a comment or a reference. -/
inductive Tag where
  | comment
  | reference (path : String)
deriving DecidableEq, Repr

/-- A comment behind its exclamation mark: what follows it. -/
def readComment? (text : List Char) : Option (List Char) :=
  match (behind? ['-', '-'] (skipTagGaps text)).bind (behindFirst? ['-', '-', '\x7d', '\x7d']) with
  | some rest => some rest
  | none => behindFirst? ['\x7d', '\x7d'] text

/-- Whether a path cannot stand alone between two pairs of braces: a single name that starts with
the word `else`. -/
def isBranch (path : String) : Bool :=
  (behind? ['e', 'l', 's', 'e'] path.toList).isSome && !path.toList.contains '.'

/-- A reference behind the opening braces, and what follows it. -/
def readReference? (text : List Char) : Option (String × List Char) :=
  match skipTagGaps text with
  | '&' :: rest => readClosed? ['\x7d', '\x7d'] rest
  | '\x7b' :: rest => do
    let (path, rest) ← readClosed? ['\x7d'] rest
    let rest ← behind? ['\x7d', '\x7d'] (skipTagGaps rest)
    return (path, rest)
  | rest =>
    (readClosed? ['\x7d', '\x7d'] rest).filter fun (path, _) ↦ !isBranch path

/-- A tag behind its opening braces, and what follows it. -/
def readTag? (text : List Char) : Option (Tag × List Char) :=
  match text with
  | '!' :: rest => (readComment? rest).map fun rest ↦ (.comment, rest)
  | _ => (readReference? text).map fun (path, rest) ↦ (.reference path, rest)

/-! ### Lines of their own -/

/-- A blank within a line. -/
def isLineGap (c : Char) : Bool :=
  c = ' ' || c = '\t'

/-- Whether nothing but blanks is left of a line that ends. -/
def endsLine (text : List Char) : Bool :=
  match text.dropWhile isLineGap with
  | [] => false
  | c :: _ => c = '\n' || c = '\r'

/-- Drops the blanks and the end of a line. -/
def skipLine (text : List Char) : List Char :=
  match text.dropWhile isLineGap with
  | '\r' :: '\n' :: rest => rest
  | '\n' :: rest => rest
  | rest => rest

/-- Whether only blanks stand on a line after a character, given whether before it. -/
def blankAfter (blank : Bool) (c : Char) : Bool :=
  if c = '\n' || c = '\r' then true else blank && isLineGap c

/-! ### Parts -/

/-- The text read so far as a part, its last character first; no part for no text. -/
def textPart (text : List Char) : List Part :=
  if text.isEmpty then [] else [.text (String.ofList text.reverse)]

/-- What stands at the start of a text: plain characters and how many were read, a tag, or
nothing that can be read. -/
inductive Token where
  | plain (text : List Char) (length : Nat)
  | tag (tag : Tag) (rest : List Char)
  | broken
deriving DecidableEq, Repr

/-- Whether a text starts with opening braces. -/
def opens : List Char → Bool
  | '\x7b' :: '\x7b' :: _ => true
  | _ => false

/-- What stands at the start of a text that is not empty. -/
def token (c : Char) (rest : List Char) : Token :=
  if opens (c :: rest) then
    match readTag? (rest.drop 1) with
    | some (tag, rest) => .tag tag rest
    | none => .broken
  else if c = '\\' && opens rest then
    if opens (rest.drop 2) then .plain (rest.take 4) 5 else .plain (rest.take 2) 3
  else
    let slashes := ((c :: rest).takeWhile (· = '\\')).length
    if 2 ≤ slashes && opens ((c :: rest).drop slashes) then
      .plain (List.replicate (slashes - 1) '\\') slashes
    else .plain [c] 1

/-- Reads the parts of a template from a place on. `blank` says whether only blanks stand before
it on its line, and `before` is the text since the last reference, its last character first. The
first argument bounds the number of characters. -/
def readParts? : Nat → Spot → Bool → List Char → List Char → Option (List Part)
  | _, _, _, before, [] => some (textPart before)
  | 0, _, _, _, _ :: _ => none
  | bound + 1, spot, blank, before, c :: rest =>
    match token c rest with
    | .broken => none
    | .plain text length =>
      let taken := (c :: rest).take length
      readParts? bound (spot.past taken) (taken.foldl blankAfter blank) (text.reverse ++ before)
        ((c :: rest).drop length)
    | .tag (.reference path) after =>
      let taken := (c :: rest).take ((c :: rest).length - after.length)
      (readParts? bound (spot.past taken) false [] after).map fun parts ↦
        textPart before ++ .reference path spot :: parts
    | .tag .comment after =>
      let alone := blank && endsLine after
      let left := if alone then skipLine after else after
      let taken := (c :: rest).take ((c :: rest).length - left.length)
      readParts? bound (spot.past taken) alone
        (if alone then before.dropWhile isLineGap else before) left

/-- The template of a text. -/
def parse? (text : String) : Option Template :=
  (readParts? text.length .start true [] text.toList).map Template.mk

/-- Reads the text of a template with a name. A text that is none is refused, for the same reason
whatever is wrong with it. -/
def parse (_name text : String) : Except String Template :=
  match parse? text with
  | none => .error "malformed template"
  | some template => .ok template

end StepSequencer.Template
