import OpenApiTypes.Json.Basic

namespace OpenApiTypes
namespace Schema

/-!
# One dialect of schemas

Documents spell the same thing in several ways.  Before a document is read, each schema
in it is brought to the spelling that the keywords know: a boolean schema becomes an
unconstrained one, `x-nullable` becomes `nullable`, and `const` becomes an enumeration
of one value, with the type of that value where none is given.

Only schema positions are normalized.  Outside a schema these are the component schemas
and every member named `schema`; inside a schema they are the subschemas.  Property
names are user data and are never keywords.
-/

/-- The type of a constant; composite constants have none. -/
def constantType? : Json -> Option String
  | .string _ => some "string"
  | .boolean _ => some "boolean"
  | .number (.integer _) => some "integer"
  | .number (.real _) => some "number"
  | .null => some "null"
  | .array _ => none
  | .object _ => none

/-- `x-nullable: true` becomes `nullable: true` unless `nullable` is given. -/
def respellNullable (members : Json.Members) : Json.Members :=
  match members.find? "x-nullable" with
  | none => members
  | some flag =>
      let rest := Json.Members.swapRemove members "x-nullable"
      match flag with
      | .boolean true =>
          if Json.Members.has rest "nullable" then rest
          else Json.Members.insert rest "nullable" (.boolean true)
      | _ => rest

/-- `const` becomes an enumeration of one value, and types an untyped schema. -/
def respellConstant (members : Json.Members) : Json.Members :=
  match members.find? "const" with
  | none => members
  | some value =>
      let rest := Json.Members.swapRemove members "const"
      let typed :=
        if Json.Members.has rest "type" then rest
        else
          match constantType? value with
          | some type => Json.Members.insert rest "type" (.string type)
          | none => rest
      if Json.Members.has typed "enum" then typed
      else Json.Members.insert typed "enum" (.array [value])

/-- How the value of a member takes part in the normal form of a schema. -/
inductive Position where
  /-- The value is a schema. -/
  | schema
  /-- The value is a list of schemas. -/
  | schemas
  /-- The value maps names to schemas. -/
  | named
  /-- The value is a schema unless it is a truth value. -/
  | schemaOrFlag
  /-- The value is data. -/
  | data
deriving DecidableEq

/-- The position of a member of a schema object. -/
def Position.ofMember (name : String) : Position :=
  if name = "properties" then .named
  else if name = "items" then .schema
  else if name = "allOf" || name = "anyOf" || name = "oneOf" then .schemas
  else if name = "additionalProperties" then .schemaOrFlag
  else .data

mutual

/-- Normalize the subschemas of a value in a position; the value itself comes first. -/
def normalizeIn (position : Position) (value : Json) : Json :=
  match position, value with
  | .schema, .boolean _ => .object []
  | .schema, .object members => .object (respellConstant (respellNullable (normalizeKeyed members)))
  | .schemaOrFlag, .object members =>
      .object (respellConstant (respellNullable (normalizeKeyed members)))
  | .schemas, .array items => .array (normalizeEach items)
  | .named, .object members => .object (normalizeNamed members)
  | _, value => value
termination_by structural value

/-- Normalize the members of a schema object by their positions. -/
def normalizeKeyed (members : List (String × Json)) : List (String × Json) :=
  match members with
  | [] => []
  | (name, value) :: rest =>
      (name, normalizeIn (Position.ofMember name) value) :: normalizeKeyed rest
termination_by structural members

/-- Normalize every schema of a list. -/
def normalizeEach (items : List Json) : List Json :=
  match items with
  | [] => []
  | value :: rest => normalizeIn .schema value :: normalizeEach rest
termination_by structural items

/-- Normalize every named schema. -/
def normalizeNamed (members : List (String × Json)) : List (String × Json) :=
  match members with
  | [] => []
  | (name, value) :: rest => (name, normalizeIn .schema value) :: normalizeNamed rest
termination_by structural members

end

/-- Normalize a schema. -/
def normalize (value : Json) : Json := normalizeIn .schema value

mutual

/-- Normalize the schemas of a value outside schemas. -/
def normalizeFields (value : Json) : Json :=
  match value with
  | .object members => .object (normalizeFieldMembers members)
  | .array items => .array (normalizeFieldItems items)
  | value => value
termination_by structural value

/-- Normalize by member name: `schema` holds a schema, examples hold data. -/
def normalizeFieldMembers (members : List (String × Json)) : List (String × Json) :=
  match members with
  | [] => []
  | (name, value) :: rest =>
      let normalized :=
        if name = "schema" then normalize value
        else if name = "example" || name = "examples" then value
        else normalizeFields value
      (name, normalized) :: normalizeFieldMembers rest
termination_by structural members

/-- Normalize the schemas of every item. -/
def normalizeFieldItems (items : List Json) : List Json :=
  match items with
  | [] => []
  | value :: rest => normalizeFields value :: normalizeFieldItems rest
termination_by structural items

end

/-- Normalize a member of the component registries. -/
def normalizeComponent (member : String × Json) : String × Json :=
  match member with
  | ("schemas", .object schemas) =>
      ("schemas", .object (schemas.map (fun entry => (entry.1, normalize entry.2))))
  | (name, registry) => (name, normalizeFields registry)

/-- Normalize a member of the document. -/
def normalizeRoot (member : String × Json) : String × Json :=
  match member with
  | ("components", .object components) =>
      ("components", .object (components.map normalizeComponent))
  | ("components", value) => ("components", value)
  | (name, value) => (name, normalizeFields value)

/-- Normalize every schema of a document.  Only an object is a document. -/
def normalizeDocument : Json -> Json
  | .object members => .object (members.map normalizeRoot)
  | value => value

end Schema
end OpenApiTypes
