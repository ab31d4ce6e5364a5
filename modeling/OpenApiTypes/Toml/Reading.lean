import OpenApiTypes.Reading.Reader
import OpenApiTypes.Toml.Document

namespace OpenApiTypes
namespace Toml

/-!
# From TOML to JSON

Typed values are read from JSON, so tables become objects.  A time becomes an object
with one member of a name that no record knows, and a number that is not finite becomes
some number: no record has a member that is a number.
-/

/-- The name of the member that holds a time. -/
def timeMember : String := "$__toml_private_datetime"

/-- The JSON value of a number or a time. -/
def Scalar.json : Scalar -> Json
  | .integer value => .number (.integer value)
  | .real value => .number (.real value)
  | .unbounded => .number (.integer 0)
  | .time text => .object [(timeMember, .string text)]

mutual

/-- The JSON value of a value. -/
def Value.json (value : Value) : Json :=
  match value with
  | .string text => .string text
  | .boolean flag => .boolean flag
  | .scalar scalar => scalar.json
  | .array items => .array (jsonItems items)
  | .table entries => .object (jsonMembers entries)
termination_by structural value

/-- The JSON values of items. -/
def jsonItems (items : List Value) : List Json :=
  match items with
  | [] => []
  | item :: rest => item.json :: jsonItems rest
termination_by structural items

/-- The members of a table. -/
def jsonMembers (entries : List (String × Value)) : Json.Members :=
  match entries with
  | [] => []
  | (name, value) :: rest => (name, value.json) :: jsonMembers rest
termination_by structural entries

end

/-- Read TOML text as a JSON object; none when it is not TOML. -/
def read? (text : String) : Option Json :=
  (parse? text).map (fun entries => .object (jsonMembers entries))

/-- An enumeration value has an empty table or an empty array as payload, and a sequence
that stands for a record may be longer than the record. -/
def dialect : Reading.Dialect where
  payload
    | .array [] => .ok ()
    | .object [] => .ok ()
    | value => Reading.wrongType value "empty table"
  ignoresSurplus := true

end Toml
end OpenApiTypes
