import OpenApiTypes.Document.Pointer
import OpenApiTypes.Schema.Basic
import OpenApiTypes.Settings
import OpenApiTypes.TypeScript.Expr

namespace OpenApiTypes
namespace TypeScript

/-!
# From schemas to type expressions

Each form of a schema has one type expression.  A reference becomes the name of its
target and is not followed, so a schema that refers to itself needs no special care:
the name is that of a declaration elsewhere.
-/

/-- What a type expression depends on besides the schema. -/
structure TypeContext where
  /-- The alias of the module that declares referenced types, when it is another one. -/
  qualifier : Option String
  fallback : Fallback

/-- The type of a scalar. -/
def primitiveType : Schema.Primitive -> TypeExpr
  | .null => .predefined "null"
  | .number => .predefined "number"
  | .integer => .predefined "number"
  | .boolean => .predefined "boolean"
  | .string => .predefined "string"

/-- The literal type of a listed value. -/
def literalType : Schema.Literal -> TypeExpr
  | .string value => .literal (.string value)
  | .number value => .literal (.number value)
  | .boolean value => .literal (.boolean value)
  | .null => .literal .null

/-- The union of listed values; without values there is no value. -/
def enumerationType : List Schema.Literal -> TypeExpr
  | [] => .predefined "never"
  | values => .union (values.map literalType)

mutual

/-- The type expression of a schema. -/
def synthesize (context : TypeContext) (schema : Schema) : TypeExpr :=
  match schema with
  | .nullable inner => .union [synthesize context inner, .predefined "null"]
  | .reference target => .declared context.qualifier (Pointer.targetName target)
  | .oneOf alternatives => .union (synthesizeEach context alternatives)
  | .allOf members => .intersection (synthesizeEach context members)
  | .primitive type _ => primitiveType type
  | .enumeration values => enumerationType values
  | .map none => .record (.predefined "unknown")
  | .map (some values) => .record (synthesize context values)
  | .object properties =>
      .object (Text.sortOn MemberOf.name (synthesizeProperties context properties))
  | .array none => .array (.predefined "unknown")
  | .array (some items) => .array (synthesize context items)
  | .unknown => .predefined context.fallback.text
termination_by structural schema

/-- The type expressions of several schemas. -/
def synthesizeEach (context : TypeContext) (schemas : List Schema) : List TypeExpr :=
  match schemas with
  | [] => []
  | first :: rest => synthesize context first :: synthesizeEach context rest
termination_by structural schemas

/-- The members for the properties of an object schema, in declaration order. -/
def synthesizeProperties (context : TypeContext)
    (properties : List (Schema.PropertyOf Schema)) : List (MemberOf TypeExpr) :=
  match properties with
  | [] => []
  | ⟨name, deprecated, schema⟩ :: rest =>
      ⟨name, deprecated, synthesize context schema⟩ :: synthesizeProperties context rest
termination_by structural properties

end

/-- The text of the type of a schema. -/
def typeText (context : TypeContext) (schema : Schema) : String :=
  (synthesize context schema).text

end TypeScript
end OpenApiTypes
