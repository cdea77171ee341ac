import MeshExport.Json
import MeshExport.Text.Invisible

/-! Why a JSON value is not an object of the expected type. -/

namespace MeshExport

inductive Expected where
  | string
  | boolean
  | sequence
  | map
  | int32
  | int64
  /-- An object or a list of its fields. -/
  | record (name : String)
  /-- An object only. -/
  | object (name : String)
  /-- One string. -/
  | exactly (text : String)

inductive DecodeError where
  | invalidType (found : Json) (expected : Expected)
  | invalidValue (found : Json) (expected : Expected)
  | missingField (name : String)
  /-- A list that ends before a field without default. -/
  | tooShort (present : Nat) (record : String) (fields : Nat)
  | tooLong (length : Nat)

namespace Expected

def describe : Expected → String
  | string => "a string"
  | boolean => "a boolean"
  | sequence => "a sequence"
  | map => "a map"
  | int32 => "i32"
  | int64 => "i64"
  | record name => "struct " ++ name
  | object name => name
  | exactly text => text

end Expected

/-- How a value is named in a message; of lists and objects only the shape is told. -/
def Json.describe : Json → String
  | null => "null"
  | bool b => "boolean `" ++ toString b ++ "`"
  | int n => "integer `" ++ toString n ++ "`"
  | float x => "floating point `" ++ floatText x ++ "`"
  | str s => "string " ++ Text.quoted s
  | arr _ => "sequence"
  | obj _ => "map"

namespace DecodeError

def message : DecodeError → String
  | invalidType found expected =>
    "invalid type: " ++ found.describe ++ ", expected " ++ expected.describe
  | invalidValue found expected =>
    "invalid value: " ++ found.describe ++ ", expected " ++ expected.describe
  | missingField name => "missing field `" ++ name ++ "`"
  | tooShort present record fields =>
    "invalid length " ++ toString present ++ ", expected struct " ++ record ++ " with " ++
      toString fields ++ " elements"
  | tooLong length =>
    "invalid length " ++ toString length ++ ", expected fewer elements in array"

end DecodeError
end MeshExport
