import OpenApiTypes.Naming
import OpenApiTypes.Text.Lines

namespace OpenApiTypes
namespace Modules

/-!
# Path types

The type of a path is a literal.  A path whose segments are all fixed is a
single-quoted literal; a segment that consists of a name in braces stands for a
parameter, and a path with such a segment is a template literal that interpolates the
types of its parameters.
-/

/-- The name in a segment that stands for a parameter. -/
def segmentParameter? (segment : List Char) : Option (List Char) :=
  match segment with
  | '\x7b' :: rest =>
      match rest.getLast? with
      | some '\x7d' => if rest.dropLast.isEmpty then none else some rest.dropLast
      | _ => none
  | _ => none

/-- Make a text fit to stand in a template literal: backslashes, backticks and the
opening of an interpolation take a backslash. -/
def escapeTemplate : List Char -> List Char
  | [] => []
  | '\\' :: rest => '\\' :: '\\' :: escapeTemplate rest
  | '`' :: rest => '\\' :: '`' :: escapeTemplate rest
  | '$' :: '\x7b' :: rest => '\\' :: '$' :: '\x7b' :: escapeTemplate rest
  | character :: rest => character :: escapeTemplate rest

/-- A path without one leading slash. -/
def withoutLeadingSlash : List Char -> List Char
  | '/' :: rest => rest
  | characters => characters

/-- The segments of a path. -/
def pathSegments (path : String) : List (List Char) :=
  Text.splitAt '/' (withoutLeadingSlash path.toList)

/-- A segment inside a template literal.  `typeOf` gives the type of a declared
parameter; nothing fits a segment whose parameter is not declared. -/
def segmentText (typeOf : String -> Option String) (segment : List Char) : String :=
  match segmentParameter? segment with
  | some name => "$\x7b" ++ (typeOf (String.ofList name)).getD "never" ++ "\x7d"
  | none => String.ofList (escapeTemplate segment)

/-- The type of a path. -/
def pathType (typeOf : String -> Option String) (path : String) : String :=
  let segments := pathSegments path
  if segments.any (fun segment => (segmentParameter? segment).isSome) then
    "`/" ++ String.intercalate "/" (segments.map (segmentText typeOf)) ++ "`"
  else
    "'/" ++ Naming.escapeSingleQuoted (String.ofList (withoutLeadingSlash path.toList)) ++ "'"

end Modules
end OpenApiTypes
