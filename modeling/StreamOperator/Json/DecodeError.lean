import StreamOperator.Json.Printer
import StreamOperator.Text.Visible

/-!
# Refused values

Why a value was not read as a value of a type: what was found and what was expected.
`DecodeError.message` holds the wording.
-/

set_option autoImplicit false

namespace StreamOperator

/-- What a decoder found in place of what it expected. -/
inductive Found where
  | null
  | bool (value : Bool)
  | int (value : Int)
  | float (value : Binary64)
  | str (value : String)
  | sequence
  | map
  deriving DecidableEq, Repr

namespace Found

def ofJson : Json → Found
  | .null => null
  | .bool b => bool b
  | .int n => int n
  | .float x => float x
  | .str s => str s
  | .arr _ => sequence
  | .obj _ => map

def text : Found → String
  | null => "null"
  | bool true => "boolean `true`"
  | bool false => "boolean `false`"
  | int n => "integer `" ++ String.ofList (Json.intChars n) ++ "`"
  | float x => "floating point `" ++ String.ofList x.render ++ "`"
  | str s => "string " ++ Text.quoted s
  | sequence => "sequence"
  | map => "map"

end Found

/-- Why a value was refused. -/
inductive DecodeError where
  | invalidType (found : Found) (expected : String)
  | invalidValue (found : Found) (expected : String)
  | invalidLength (length : Nat) (expected : String)
  | missingField (name : String)
  | duplicateField (name : String)
  | unknownVariant (name : String) (options : List String)
  | malformed (reason : String)
  deriving DecidableEq, Repr

namespace DecodeError

/-- What may stand in a place: one of two names, or of a list. -/
def choice (options : List String) : String :=
  match options.map fun option => "`" ++ option ++ "`" with
  | [a, b] => a ++ " or " ++ b
  | quoted => "one of " ++ ", ".intercalate quoted

def message : DecodeError → String
  | invalidType found expected => "invalid type: " ++ found.text ++ ", expected " ++ expected
  | invalidValue found expected => "invalid value: " ++ found.text ++ ", expected " ++ expected
  | invalidLength length expected => s!"invalid length {length}, expected {expected}"
  | missingField name => "missing field `" ++ name ++ "`"
  | duplicateField name => "duplicate field `" ++ name ++ "`"
  | unknownVariant name options => "unknown variant `" ++ name ++ "`, expected " ++ choice options
  | malformed reason => reason

end DecodeError

/-- Refuses a value for its type. -/
def Decode.mismatch {α : Type} (value : Json) (expected : String) : Except DecodeError α :=
  .error (.invalidType (Found.ofJson value) expected)

end StreamOperator
