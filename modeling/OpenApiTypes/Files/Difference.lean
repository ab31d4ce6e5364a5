import OpenApiTypes.Files.Tree

namespace OpenApiTypes
namespace Files

/-!
# What changed between two trees

Files and directories are different entries, also at the same place.  So a directory in
the place of a file is a new entry, and the file is gone.
-/

namespace Node

/-- Whether two nodes are both files or both directories. -/
def sameKind : Node -> Node -> Bool
  | .file _, .file _ => true
  | .directory, .directory => true
  | _, _ => false

end Node

namespace Tree

/-- The entries that are new or have another content. -/
def changed (before later : Tree) : List (Place × Node) :=
  later.nodes.filter (fun entry => before.node? entry.1 != some entry.2)

/-- The entries that are gone. -/
def removed (before later : Tree) : List (Place × Node) :=
  before.nodes.filter (fun entry => !(later.node? entry.1).any (Node.sameKind entry.2))

end Tree
end Files
end OpenApiTypes
