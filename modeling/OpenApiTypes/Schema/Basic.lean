import OpenApiTypes.Json.Basic

namespace OpenApiTypes

/-!
# Schemas

A schema is one recognized form.  Nullability stands outside every form, a composition
outside every type, and a reference is kept as it is written and never followed.
-/

namespace Schema

/-- The scalar types. -/
inductive Primitive where
  | null
  | number
  | boolean
  | integer
  | string
deriving DecidableEq, Inhabited

/-- One value of an enumeration. -/
inductive Literal where
  | string (value : String)
  | number (value : Json.Number)
  | boolean (value : Bool)
  | null
deriving DecidableEq, Inhabited

/-- A named property of an object, over the type of its schema. -/
structure PropertyOf (Content : Type) where
  name : String
  deprecated : Bool
  schema : Content
deriving Inhabited

end Schema

/-- A schema reduced to one recognized form. -/
inductive Schema where
  /-- The inner schema, or null. -/
  | nullable (inner : Schema)
  /-- A reference, as written. -/
  | reference (target : String)
  /-- One of the alternatives. -/
  | oneOf (alternatives : List Schema)
  /-- All of the members at once. -/
  | allOf (members : List Schema)
  /-- A scalar with its format hint. -/
  | primitive (type : Schema.Primitive) (format : Option String)
  /-- A scalar restricted to values, in declaration order. -/
  | enumeration (values : List Schema.Literal)
  /-- A map from strings; without a schema any value is accepted. -/
  | map (values : Option Schema)
  /-- Named properties, in declaration order. -/
  | object (properties : List (Schema.PropertyOf Schema))
  /-- A list; without a schema the items are not declared. -/
  | array (items : Option Schema)
  /-- No recognized form. -/
  | unknown
deriving Inhabited

namespace Schema

/-- A named property of an object schema. -/
abbrev Property := PropertyOf Schema

/-- Whether a schema is a string of raw octets. -/
def isBinary : Schema -> Bool
  | .primitive .string (some format) => format == "binary"
  | _ => false

/-- A schema that also admits null.  One that already does stays as it is. -/
def toNullable : Schema -> Schema
  | .nullable inner => .nullable inner
  | schema => .nullable schema

/-- The keyword of a scalar type. -/
def Primitive.ofName? : String -> Option Primitive
  | "null" => some .null
  | "number" => some .number
  | "boolean" => some .boolean
  | "integer" => some .integer
  | "string" => some .string
  | _ => none

end Schema
end OpenApiTypes
