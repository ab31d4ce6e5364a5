import OpenApiTypes.Text.Case

namespace OpenApiTypes
namespace Naming

/-!
# Names in generated code

Operations and parameters are named after text that was not written as an identifier.
A parameters type is named after the method and the words of the path; a query
parameter keeps its leading camel-case word or becomes a quoted key.  Quoted keys and
literals escape the two characters that a single-quoted literal reserves.
-/

/-! ## Character classes -/

/-- An ASCII letter. -/
def isLetter (character : Char) : Bool :=
  ('a' <= character && character <= 'z') || ('A' <= character && character <= 'Z')

/-- An ASCII letter in small form. -/
def isSmallLetter (character : Char) : Bool :=
  'a' <= character && character <= 'z'

/-- An ASCII digit. -/
def isDigit (character : Char) : Bool :=
  '0' <= character && character <= '9'

/-- A character of a path word. -/
def isWordChar (character : Char) : Bool :=
  isLetter character || isDigit character || character == '_'

/-- A character that may begin an identifier. -/
def startsIdentifier (character : Char) : Bool :=
  isLetter character || character == '_' || character == '$'

/-- A character that may continue an identifier. -/
def continuesIdentifier (character : Char) : Bool :=
  startsIdentifier character || isDigit character

/-- Whether characters form an ASCII identifier. -/
def isIdentifierChars : List Char -> Bool
  | [] => false
  | first :: rest => startsIdentifier first && rest.all continuesIdentifier

/-- Whether a name is an ASCII identifier. -/
def isIdentifier (name : String) : Bool :=
  isIdentifierChars name.toList

/-! ## Type names -/

/-- The words of a path, each capitalized, without what stands between them.
`fresh` says that the next word character begins a word. -/
def camelWords (fresh : Bool) : List Char -> List Char
  | [] => []
  | character :: rest =>
      if isWordChar character then
        (if fresh then character.toUpper else character) :: camelWords false rest
      else camelWords true rest

/-- The name of the parameters type of an operation: `get /items/{id}` has
`GetItemsIdParams`. -/
def paramsTypeName (method path : String) : String :=
  Text.capitalize method ++ String.ofList (camelWords true path.toList) ++ "Params"

/-! ## Single-quoted literals -/

/-- One character inside single quotes: the backslash and the quote take a backslash. -/
def escapeChar (character : Char) : List Char :=
  if character = '\\' then ['\\', '\\']
  else if character = '\'' then ['\\', '\'']
  else [character]

/-- A text inside single quotes. -/
def escapeChars (characters : List Char) : List Char :=
  characters.flatMap escapeChar

/-- A text made fit to stand between single quotes. -/
def escapeSingleQuoted (text : String) : String :=
  String.ofList (escapeChars text.toList)

/-- A single-quoted literal. -/
def singleQuoted (text : String) : String :=
  "'" ++ escapeSingleQuoted text ++ "'"

/-- A property key: identifiers stay bare, other names are quoted. -/
def propertyKey (name : String) : String :=
  if isIdentifier name then name else singleQuoted name

/-! ## Query parameters -/

/-- The key of a query parameter.  A name that starts with a small letter keeps its
leading letters (`pageSize[gt]` becomes `pageSize`); other names are quoted. -/
def parameterKey (name : String) : String :=
  match name.toList with
  | [] => singleQuoted name
  | first :: rest =>
      if isSmallLetter first then String.ofList (first :: rest.takeWhile isLetter)
      else singleQuoted name

end Naming
end OpenApiTypes
