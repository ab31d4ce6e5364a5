import OpenApiTypes.Json.Basic
import OpenApiTypes.Text.Quoted

namespace OpenApiTypes
namespace Reading

/-!
# Why a value is not what was expected

Reading a typed record from a JSON value fails at the first member that does not fit.
The error says what was found and what was expected; its text is a function of it.
-/

/-- What was found in place of the expected value.  Composite values are not shown. -/
inductive Found where
  | null
  | boolean (value : Bool)
  | number (value : Json.Number)
  | string (value : String)
  | sequence
  | map
deriving DecidableEq

/-- What a value is reported as. -/
def Found.ofJson : Json -> Found
  | .null => .null
  | .boolean value => .boolean value
  | .number value => .number value
  | .string value => .string value
  | .array _ => .sequence
  | .object _ => .map

/-- The description of what was found. -/
def Found.text : Found -> String
  | .null => "null"
  | .boolean value => "boolean `" ++ (if value then "true" else "false") ++ "`"
  | .number (.integer value) => "integer `" ++ toString value ++ "`"
  | .number (.real value) => "floating point `" ++ value.text ++ "`"
  | .string value => "string " ++ Text.quoted value
  | .sequence => "sequence"
  | .map => "map"

/-- Why a value could not be read. -/
inductive Error where
  /-- The value has another type. -/
  | invalidType (found : Found) (expected : String)
  /-- The value has the type but not the form. -/
  | invalidValue (found : Found) (expected : String)
  /-- A sequence has too few or too many elements for a record. -/
  | invalidLength (length : Nat) (expected : String)
  /-- A record lacks a member. -/
  | missingField (name : String)
  /-- A record that lists all its members has another one. -/
  | unknownField (name : String) (expected : List String)
  /-- An enumeration has no such value. -/
  | unknownVariant (name : String) (expected : List String)
  /-- No alternative of a union fits. -/
  | noVariant (union : String)
deriving DecidableEq

/-- A list of names to choose from. -/
def choices (names : List String) : String :=
  let shown := names.map (fun name => "`" ++ name ++ "`")
  match shown with
  | [] => ""
  | [only] => only
  | [first, second] => first ++ " or " ++ second
  | _ => "one of " ++ String.intercalate ", " shown

/-- How an error is reported. -/
def Error.message : Error -> String
  | .invalidType found expected => "invalid type: " ++ found.text ++ ", expected " ++ expected
  | .invalidValue found expected => "invalid value: " ++ found.text ++ ", expected " ++ expected
  | .invalidLength length expected =>
      "invalid length " ++ toString length ++ ", expected " ++ expected
  | .missingField name => "missing field `" ++ name ++ "`"
  | .unknownField name [] => "unknown field `" ++ name ++ "`, there are no fields"
  | .unknownField name expected => "unknown field `" ++ name ++ "`, expected " ++ choices expected
  | .unknownVariant name [] => "unknown variant `" ++ name ++ "`, there are no variants"
  | .unknownVariant name expected =>
      "unknown variant `" ++ name ++ "`, expected " ++ choices expected
  | .noVariant union => "data did not match any variant of untagged enum " ++ union

/-- The error for a value of another type. -/
def wrongType {Result : Type} (value : Json) (expected : String) : Except Error Result :=
  .error (.invalidType (.ofJson value) expected)

end Reading
end OpenApiTypes
