import StepSequencer.Json.Value
import StepSequencer.Text.Quoted

/-!
# Data of the wrong shape

A `Mismatch` is the reason why well-formed JSON does not describe what a reader wants: a value
of another type, an integer out of range, a field that is missing, unknown or given twice, a
list of the wrong length. `Mismatch.message` words it; `Found` names what stood there instead.
-/

set_option autoImplicit false
set_option relaxedAutoImplicit false

namespace StepSequencer.Json

/-- What was found where something else was wanted. -/
inductive Found where
  | null
  | bool (b : Bool)
  | integer (n : Int)
  | float (x : Decimal.Binary64)
  | string (s : String)
  | sequence
  | map
deriving DecidableEq, Repr

/-- The kind of a number, with the number. -/
def Number.found : Number → Found
  | .integer n => .integer n
  | .float x => .float x

/-- The kind of a value, with the value where it is short. -/
def Value.found : Value → Found
  | .null => .null
  | .bool b => .bool b
  | .number n => n.found
  | .string s => .string s
  | .array _ => .sequence
  | .object _ => .map

/-- An integer in decimal. -/
def decimal (n : Int) : String :=
  match n with
  | .ofNat k => String.ofList (Nat.toDigits 10 k)
  | .negSucc k => String.ofList ('-' :: Nat.toDigits 10 (k + 1))

/-- The words for what was found. -/
def Found.text : Found → String
  | .null => "null"
  | .bool b => "boolean `" ++ (if b then "true" else "false") ++ "`"
  | .integer n => "integer `" ++ decimal n ++ "`"
  | .float x => "floating point `" ++ Decimal.messageLayout.text x ++ "`"
  | .string s => "string " ++ Text.quoted s
  | .sequence => "sequence"
  | .map => "map"

/-- Why a value does not have the wanted shape. -/
inductive Mismatch where
  | wrongType (found : Found) (wanted : String)
  | outOfRange (n : Int) (wanted : String)
  | wrongLength (found : Nat) (wanted : String)
  | missingField (name : String)
  | unknownField (name : String) (known : List String)
  | duplicateField (name : String)
  | noLayout (wanted : String)
deriving DecidableEq, Repr

/-- A name between back quotes. -/
def ticked (name : String) : String :=
  "`" ++ name ++ "`"

/-- The words for the names a field may have. -/
def alternatives : List String → String
  | [] => "there are no fields"
  | [name] => "expected " ++ ticked name
  | [first, second] => "expected " ++ ticked first ++ " or " ++ ticked second
  | names => "expected one of " ++ ", ".intercalate (names.map ticked)

/-- The words for a mismatch. -/
def Mismatch.message : Mismatch → String
  | .wrongType found wanted => "invalid type: " ++ found.text ++ ", expected " ++ wanted
  | .outOfRange n wanted =>
    "invalid value: integer " ++ ticked (decimal n) ++ ", expected " ++ wanted
  | .wrongLength found wanted => "invalid length " ++ decimal found ++ ", expected " ++ wanted
  | .missingField name => "missing field " ++ ticked name
  | .unknownField name known => "unknown field " ++ ticked name ++ ", " ++ alternatives known
  | .duplicateField name => "duplicate field " ++ ticked name
  | .noLayout wanted => "data did not match any variant of untagged enum " ++ wanted

end StepSequencer.Json
