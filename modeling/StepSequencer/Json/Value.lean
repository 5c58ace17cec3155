import StepSequencer.Decimal.Shortest
import StepSequencer.Text.Order

/-!
# JSON values

A number is an integer or a binary fraction. An object is a list of members; the objects that
the reader makes hold their members in increasing order of the key, each key once
(`insertMember` puts a member in its place and replaces an earlier one of the same key).
`canonical` brings every object of a value into that form.
-/

set_option autoImplicit false
set_option relaxedAutoImplicit false

namespace StepSequencer.Json

/-- A number: an integer, or a number of the double format. -/
inductive Number where
  | integer (n : Int)
  | float (x : Decimal.Binary64)
deriving DecidableEq, Repr

/-- A JSON value. -/
inductive Value where
  | null
  | bool (b : Bool)
  | number (n : Number)
  | string (s : String)
  | array (elements : List Value)
  | object (members : List (String × Value))
deriving Repr

/-- The integer as a value. -/
def Value.ofInt (n : Int) : Value :=
  .number (.integer n)

/-- Puts a member among others that are in increasing order of the key; of two with the same
key the new one stays. -/
def insertMember {α : Type} (key : String) (value : α) :
    List (String × α) → List (String × α)
  | [] => [(key, value)]
  | (k, v) :: rest =>
    if Text.precedes key k then (key, value) :: (k, v) :: rest
    else if key = k then (key, value) :: rest
    else (k, v) :: insertMember key value rest

/-- The members in increasing order of the key; of several with the same key the last one. -/
def sortMembers {α : Type} (members : List (String × α)) : List (String × α) :=
  members.foldl (fun sorted member ↦ insertMember member.1 member.2 sorted) []

mutual

/-- The value with the members of all objects in increasing order of the key. -/
def Value.canonical : Value → Value
  | .array elements => .array (canonicalAll elements)
  | .object members => .object (sortMembers (canonicalMembers members))
  | value => value

/-- The canonical forms of some values. -/
def canonicalAll : List Value → List Value
  | [] => []
  | value :: rest => value.canonical :: canonicalAll rest

/-- The members with canonical values, in the same order. -/
def canonicalMembers : List (String × Value) → List (String × Value)
  | [] => []
  | (key, value) :: rest => (key, value.canonical) :: canonicalMembers rest

end

/-- The value of the first member with a key. -/
def member? {α : Type} (key : String) (members : List (String × α)) : Option α :=
  (members.find? fun member ↦ member.1 == key).map Prod.snd

end StepSequencer.Json
