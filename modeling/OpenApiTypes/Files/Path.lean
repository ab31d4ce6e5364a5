import OpenApiTypes.Text.Lines

namespace OpenApiTypes
namespace Files

/-!
# Paths as text

A path is written as names between slashes, and a slash in front of them says that it
starts at the root.  What it means depends on the files that are there; this module only
cuts and joins the text.
-/

/-- Whether a path starts at the root. -/
def isAbsolute (path : String) : Bool :=
  path.startsWith "/"

/-- The names of a path, without the empty ones that repeated slashes leave. -/
def parts (path : String) : List String :=
  (Text.pieces '/' path).filter (fun name => name != "")

/-- Whether a path says that it means a directory. -/
def asksForDirectory (path : String) : Bool :=
  path.endsWith "/"

/-- The names of a path without those that stay where they are, save the first one of a
path that does not start at the root. -/
def components (path : String) : List String :=
  match isAbsolute path, parts path with
  | false, first :: rest => first :: rest.filter (fun name => name != ".")
  | _, names => names.filter (fun name => name != ".")

/-- A path written from its names. -/
def ofParts (names : List String) : String :=
  String.intercalate "/" names

/-- The path of other names from where a path starts. -/
def withNames (path : String) (names : List String) : String :=
  if isAbsolute path then "/" ++ ofParts names else ofParts names

/-- The path of a name inside a directory. -/
def join (directory name : String) : String :=
  if directory = "" || asksForDirectory directory then directory ++ name
  else directory ++ "/" ++ name

/-- Whether the name of a file ends in `.ts` after something else. -/
def isTypeScript (name : String) : Bool :=
  name.endsWith ".ts" && name != ".ts"

end Files
end OpenApiTypes
