import OpenApiTypes.Json.Basic
import OpenApiTypes.Naming
import OpenApiTypes.Text.Order

namespace OpenApiTypes
namespace TypeScript

/-!
# Type expressions

The type expressions that schemas are turned into.  A union or an intersection is
always written in parentheses, so an expression keeps its meaning wherever it stands.
-/

/-- A literal type. -/
inductive LiteralType where
  | string (value : String)
  | number (value : Json.Number)
  | boolean (value : Bool)
  | null
deriving DecidableEq, Inhabited

/-- The text of a literal type. -/
def LiteralType.text : LiteralType -> String
  | .string value => Naming.singleQuoted value
  | .number value => value.text
  | .boolean value => if value then "true" else "false"
  | .null => "null"

/-- A member of an object type, over the type of its value. -/
structure MemberOf (Content : Type) where
  name : String
  deprecated : Bool
  type : Content
deriving Inhabited

/-- A type expression. -/
inductive TypeExpr where
  /-- A predefined type such as `string` or `unknown`. -/
  | predefined (name : String)
  /-- A declared type, qualified by the alias of the module that declares it. -/
  | declared (qualifier : Option String) (name : String)
  /-- A literal type. -/
  | literal (value : LiteralType)
  /-- Any of the members. -/
  | union (members : List TypeExpr)
  /-- All of the members. -/
  | intersection (members : List TypeExpr)
  /-- A map from strings. -/
  | record (values : TypeExpr)
  /-- An object with named members. -/
  | object (members : List (MemberOf TypeExpr))
  /-- A list. -/
  | array (items : TypeExpr)
deriving Inhabited

namespace TypeExpr

/-- A member of an object type. -/
abbrev Member := MemberOf TypeExpr

/-- The text of a declared type. -/
def declaredText : Option String -> String -> String
  | some qualifier, name => qualifier ++ "." ++ name
  | none, name => name

/-- A member of an object type around the text of its value. -/
def memberText (name : String) (deprecated : Bool) (value : String) : String :=
  (if deprecated then "/** @deprecated */ " else "") ++
    Naming.propertyKey name ++ ": " ++ value ++ ";"

mutual

/-- The text of a type expression. -/
def text (expression : TypeExpr) : String :=
  match expression with
  | .predefined name => name
  | .declared qualifier name => declaredText qualifier name
  | .literal value => value.text
  | .union members => "(" ++ String.intercalate " | " (texts members) ++ ")"
  | .intersection members => "(" ++ String.intercalate " & " (texts members) ++ ")"
  | .record values => "Record<string, " ++ text values ++ ">"
  | .object members =>
      match memberTexts members with
      | [] => "\x7b\x7d"
      | shown => "\x7b " ++ String.intercalate " " shown ++ " \x7d"
  | .array items => text items ++ "[]"
termination_by structural expression

/-- The texts of type expressions. -/
def texts (expressions : List TypeExpr) : List String :=
  match expressions with
  | [] => []
  | first :: rest => text first :: texts rest
termination_by structural expressions

/-- The texts of the members of an object type. -/
def memberTexts (members : List (MemberOf TypeExpr)) : List String :=
  match members with
  | [] => []
  | ⟨name, deprecated, type⟩ :: rest =>
      memberText name deprecated (text type) :: memberTexts rest
termination_by structural members

end

end TypeExpr
end TypeScript
end OpenApiTypes
