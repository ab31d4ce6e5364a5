import OpenApiTypes.Json.Basic

namespace OpenApiTypes
namespace Template

/-!
# The template language

A template is text with places to fill in.  Expressions name the variables that the
renderer provides, join texts, compare, add integers, test whether a variable is
defined, and pass values through filters.  Besides printing, a template can bind a name
and choose between parts.
-/

/-- An expression. -/
inductive Expr where
  /-- A text between quotes. -/
  | text (value : String)
  /-- An integer. -/
  | integer (value : Int)
  /-- A truth value. -/
  | flag (value : Bool)
  /-- A variable; a dotted name looks into a value. -/
  | named (name : String)
  /-- Texts written one after the other. -/
  | join (parts : List Expr)
  /-- The sum of two integers. -/
  | sum (left right : Expr)
  /-- A function call. -/
  | call (name : String) (arguments : List (String × Expr))
  /-- A value passed through filters, from left to right. -/
  | piped (value : Expr) (filters : List (String × List (String × Expr)))
  /-- Whether a variable passes a test. -/
  | test (subject : String) (negated : Bool) (name : String)
  /-- Whether two values are equal, or differ. -/
  | equal (negated : Bool) (left right : Expr)
  /-- Both conditions. -/
  | both (left right : Expr)
  /-- At least one condition. -/
  | either (left right : Expr)
  /-- The opposite condition. -/
  | negation (condition : Expr)
deriving Inhabited

/-- A part of a template. -/
inductive Node where
  /-- Text that is written as it is. -/
  | text (content : String)
  /-- A value that is written. -/
  | print (value : Expr)
  /-- A name that is bound to a value. -/
  | assign (name : String) (value : Expr)
  /-- The first part whose condition holds, or the part that stands for no condition. -/
  | choose (branches : List (Expr × List Node)) (otherwise : List Node)
deriving Inhabited

/-- Why a template cannot be rendered. -/
inductive Error where
  | unknownVariable (name : String)
  | unknownFilter (name : String)
  | unknownFunction (name : String)
  | unknownTest (name : String)
  /-- A filter failed. -/
  | filterFailed (filter : String) (reason : Error)
  /-- A filter was given a value that it does not apply to. -/
  | filterValue (filter : String) (value : Json)
  /-- A filter was given an argument that it does not apply to. -/
  | filterArgument (filter argument : String) (value : Json)
  /-- A filter lacks an argument. -/
  | missingArgument (filter argument : String)
  /-- Only arrays, objects and strings have a length. -/
  | noLength
  /-- The filter for missing values lacks a value. -/
  | noDefault
  /-- Only texts and numbers can be joined. -/
  | notJoinable (name : String)
  /-- Only numbers can be added. -/
  | notNumber (name : String)
  | textInSum (text : String)
  | flagInSum (flag : Bool)
  /-- Another expression was added that is no number. -/
  | notNumeric
  /-- A sum does not fit in 64 bits. -/
  | outOfBounds (left right : Int)

/-- How an error is reported while the template of a name is rendered. -/
def Error.message (template : String) : Error -> String
  | .unknownVariable name =>
      "Variable `" ++ name ++ "` not found in context while rendering '" ++ template ++ "'"
  | .unknownFilter name => "Filter '" ++ name ++ "' not found"
  | .unknownFunction name => "Function '" ++ name ++ "' not found"
  | .unknownTest name => "Test '" ++ name ++ "' not found"
  | .filterFailed filter reason =>
      "Filter call '" ++ filter ++ "' failed: " ++ reason.message template
  | .filterValue filter value =>
      "Filter `" ++ filter ++ "` was called on an incorrect value: got `" ++ value.compact ++
        "` but expected a String"
  | .filterArgument filter argument value =>
      "Filter `" ++ filter ++ "` received an incorrect type for arg `" ++ argument ++
        "`: got `" ++ value.compact ++ "` but expected a String"
  | .missingArgument filter argument =>
      "Filter `" ++ filter ++ "` expected an arg called `" ++ argument ++ "`"
  | .noLength =>
      "Filter `length` was used on a value that isn't an array, an object, or a string."
  | .noDefault => "The `default` filter requires a `value` argument."
  | .notJoinable name =>
      "Tried to concat a value that is not a string or a number from ident " ++ name
  | .notNumber name =>
      "Variable `" ++ name ++ "` was used in a math operation but is not a number"
  | .textInSum text => "Tried to do math with a string: `" ++ text ++ "`"
  | .flagInSum flag =>
      "Tried to do math with a boolean: `" ++ (if flag then "true" else "false") ++ "`"
  | .notNumeric => "Tried to do math with an expression not resulting in a number"
  | .outOfBounds left right =>
      toString left ++ " + " ++ toString right ++ " results in an out of bounds i64"

end Template
end OpenApiTypes
