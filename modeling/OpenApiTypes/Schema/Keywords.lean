import OpenApiTypes.Reading.Reader
import OpenApiTypes.Schema.Basic

namespace OpenApiTypes
namespace Schema

/-!
# From keywords to a schema

A schema object holds independent keywords.  They are gathered first, with every
subschema already reduced to its form, and then the keywords decide the form: a
reference wins over `oneOf`, that over `allOf`, that over `anyOf`, and only then the
type counts.  Null in a list of types is nullability and not a type of its own.
-/

/-! ## Keywords -/

/-- The keywords that decide a form, in declaration order. -/
inductive Keyword where
  | reference
  | nullable
  | deprecated
  | oneOf
  | allOf
  | anyOf
  | types
  | values
  | format
  | properties
  | additionalProperties
  | items
deriving DecidableEq

/-- Every keyword with its spelling, in declaration order. -/
def Keyword.spellings : List (String × Keyword) := [
  ("$ref", .reference), ("nullable", .nullable), ("deprecated", .deprecated),
  ("oneOf", .oneOf), ("allOf", .allOf), ("anyOf", .anyOf), ("type", .types),
  ("enum", .values), ("format", .format), ("properties", .properties),
  ("additionalProperties", .additionalProperties), ("items", .items)]

/-- The keyword of a spelling. -/
def Keyword.ofName? (name : String) : Option Keyword :=
  Keyword.spellings.lookup name

/-- What `additionalProperties` says. -/
inductive Additional where
  | allowed (flag : Bool)
  | schema (values : Schema)
deriving Inhabited

/-- The keywords of one schema object, with the forms of its subschemas. -/
structure Keywords where
  reference : Option String := none
  nullable : Option Bool := none
  deprecated : Option Bool := none
  oneOf : Option (List Schema) := none
  allOf : Option (List Schema) := none
  anyOf : Option (List Schema) := none
  types : Option (List String) := none
  values : Option (List Json) := none
  format : Option String := none
  properties : Option (List Property) := none
  additional : Option Additional := none
  items : Option Schema := none
deriving Inhabited

/-! ## The form of a schema -/

/-- A listed value.  Where strings are expected, other values are listed by their text;
elsewhere only composite values are. -/
def Literal.ofJson (stringly : Bool) : Json -> Literal
  | .string value => .string value
  | .number value => if stringly then .string value.text else .number value
  | .boolean value =>
      if stringly then .string (Json.compact (.boolean value)) else .boolean value
  | .null => if stringly then .string (Json.compact .null) else .null
  | value => .string value.compact

/-- The form that a single type gives. -/
def Keywords.typedForm (keywords : Keywords) (type : String) : Schema :=
  match Primitive.ofName? type with
  | some .null => .primitive .null keywords.format
  | some scalar =>
      match keywords.values with
      | some values => .enumeration (values.map (Literal.ofJson (scalar == .string)))
      | none => .primitive scalar keywords.format
  | none =>
      if type = "object" then
        match keywords.additional with
        | some (.schema values) => .map (some values)
        | some (.allowed true) => .map none
        | _ => .object (keywords.properties.getD [])
      else if type = "array" then .array keywords.items
      else .unknown

/-- The form of a schema with the given types, nullability aside. -/
def Keywords.form (keywords : Keywords) (types : List String) : Schema :=
  match keywords.reference, keywords.oneOf, keywords.allOf, keywords.anyOf with
  | some target, _, _, _ => .reference target
  | none, some alternatives, _, _ => .oneOf alternatives
  | none, none, some members, _ => .allOf members
  | none, none, none, some alternatives => .oneOf alternatives
  | none, none, none, none =>
      match types with
      | [] =>
          match keywords.values with
          | some values => .enumeration (values.map (Literal.ofJson false))
          | none => .unknown
      | [single] => keywords.typedForm single
      | many => .oneOf (many.map keywords.typedForm)

/-- The types that decide the form: null is left out unless it is the only type. -/
def Keywords.effectiveTypes (keywords : Keywords) : List String :=
  let declared := keywords.types.getD []
  match declared.filter (fun type => type != "null") with
  | [] => if declared.isEmpty then [] else ["null"]
  | types => types

/-- Whether the schema admits null: it says so, or null is one of several types. -/
def Keywords.admitsNull (keywords : Keywords) : Bool :=
  let declared := keywords.types.getD []
  let others := declared.filter (fun type => type != "null")
  keywords.nullable.getD false || (!others.isEmpty && others.length < declared.length)

/-- The schema that the keywords describe. -/
def Keywords.toSchema (keywords : Keywords) : Schema :=
  let form := keywords.form keywords.effectiveTypes
  if keywords.admitsNull then .nullable form else form

/-! ## Reading -/

open Reading in
/-- Read the value of a keyword.  The subschemas of the value are read by the readers
that are handed in, so that the recursion stays with the caller. -/
def Keywords.put (keywords : Keywords) (keyword : Keyword) (value : Json)
    (asSchema : Unit -> Except Error Keywords)
    (asList : Unit -> Except Error (List Schema))
    (asProperties : Unit -> Except Error (List Property)) : Except Error Keywords :=
  match keyword, value with
  | .reference, value => do
      pure { keywords with reference := <- optional string value }
  | .nullable, value => do
      pure { keywords with nullable := <- optional boolean value }
  | .deprecated, value => do
      pure { keywords with deprecated := <- optional boolean value }
  | .oneOf, .null => .ok { keywords with oneOf := none }
  | .oneOf, _ => do pure { keywords with oneOf := some (<- asList ()) }
  | .allOf, .null => .ok { keywords with allOf := none }
  | .allOf, _ => do pure { keywords with allOf := some (<- asList ()) }
  | .anyOf, .null => .ok { keywords with anyOf := none }
  | .anyOf, _ => do pure { keywords with anyOf := some (<- asList ()) }
  | .types, value => do
      let single : Reader (List String) := fun type => (string type).map (fun name => [name])
      pure { keywords with types := <- optional (either "RawType" single (list string)) value }
  | .values, value => do
      pure { keywords with values := <- optional (list anything) value }
  | .format, value => do
      pure { keywords with format := <- optional string value }
  | .properties, .null => .ok { keywords with properties := none }
  | .properties, _ => do pure { keywords with properties := some (<- asProperties ()) }
  | .additionalProperties, .null => .ok { keywords with additional := none }
  | .additionalProperties, .boolean flag =>
      .ok { keywords with additional := some (.allowed flag) }
  | .additionalProperties, _ =>
      match asSchema () with
      | .ok inner => .ok { keywords with additional := some (.schema inner.toSchema) }
      | .error _ => .error (.noVariant "RawAdditionalProperties")
  | .items, .null => .ok { keywords with items := none }
  | .items, _ => do pure { keywords with items := some (<- asSchema ()).toSchema }

/-- How a schema is named in messages. -/
def recordName : String := "RawSchema"

open Reading

mutual

/-- Read the keywords of a schema: an object, or the sequence of all keyword values. -/
def readKeywords (value : Json) : Except Error Keywords :=
  match value with
  | .object members => readMembers members {}
  | .array items => readElements items.length 0 (Keyword.spellings.map Prod.snd) items {}
  | value => wrongType value ("struct " ++ recordName)
termination_by structural value

/-- Read a sequence of schemas. -/
def readSchemaList (value : Json) : Except Error (List Schema) :=
  match value with
  | .array items => readSchemas items
  | value => wrongType value "a sequence"
termination_by structural value

/-- Read the properties of an object schema. -/
def readPropertyMap (value : Json) : Except Error (List Property) :=
  match value with
  | .object members => readProperties members
  | value => wrongType value "a map"
termination_by structural value

/-- Read keyword members in document order; other members say nothing about the form. -/
def readMembers (members : List (String × Json)) (keywords : Keywords) :
    Except Error Keywords :=
  match members with
  | [] => .ok keywords
  | (name, value) :: rest =>
      match Keyword.ofName? name with
      | none => readMembers rest keywords
      | some keyword =>
          match keywords.put keyword value (fun _ => readKeywords value)
              (fun _ => readSchemaList value) (fun _ => readPropertyMap value) with
          | .ok next => readMembers rest next
          | .error error => .error error
termination_by structural members

/-- Read keyword values given in declaration order; none may be missing. -/
def readElements (length index : Nat) (expected : List Keyword) (items : List Json)
    (keywords : Keywords) : Except Error Keywords :=
  match items with
  | [] =>
      if expected.isEmpty then .ok keywords
      else
        .error (.invalidLength index
          ("struct " ++ recordName ++ " with " ++ toString Keyword.spellings.length ++
            " elements"))
  | value :: rest =>
      match expected with
      | [] => .error (.invalidLength length "fewer elements in array")
      | keyword :: others =>
          match keywords.put keyword value (fun _ => readKeywords value)
              (fun _ => readSchemaList value) (fun _ => readPropertyMap value) with
          | .ok next => readElements length (index + 1) others rest next
          | .error error => .error error
termination_by structural items

/-- Read schemas one after the other. -/
def readSchemas (items : List Json) : Except Error (List Schema) :=
  match items with
  | [] => .ok []
  | value :: rest => do
      let first <- readKeywords value
      let others <- readSchemas rest
      pure (first.toSchema :: others)
termination_by structural items

/-- Read properties one after the other. -/
def readProperties (members : List (String × Json)) : Except Error (List Property) :=
  match members with
  | [] => .ok []
  | (name, value) :: rest => do
      let keywords <- readKeywords value
      let others <- readProperties rest
      pure (⟨name, keywords.deprecated.getD false, keywords.toSchema⟩ :: others)
termination_by structural members

end

/-- Read a schema. -/
def read (value : Json) : Except Error Schema :=
  (readKeywords value).map Keywords.toSchema

end Schema
end OpenApiTypes
