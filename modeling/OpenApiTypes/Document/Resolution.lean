import OpenApiTypes.Document.Basic
import OpenApiTypes.Document.Pointer

namespace OpenApiTypes
namespace Document

/-!
# Following references

A parameter reference names an entry of the component parameters.  A path item
reference names a path or a component path item, and what it names may be a reference
again.  A chain of references that does not reach a definition gives nothing: it ends
at a missing entry, or it comes back to a reference it has already followed.

Only names of entries can be followed, so a chain that repeats no reference spelling is
bounded.  Spellings are what is remembered, and one entry has one spelling at most in
the document; the first reference may be one more.
-/

/-- The parameter that a reference names. -/
def parameter? (document : Document) (target : String) : Option Parameter :=
  if Pointer.registryName? target = some "parameters" then
    document.components.bind (fun components =>
      components.parameters.get? (Pointer.targetName target))
  else none

/-- The entry that a path item reference names: `pathItems` selects the components, any
other registry name the paths. -/
def pathItemEntry? (document : Document) (target : String) : Option (Referable PathItem) :=
  if Pointer.registryName? target = some "pathItems" then
    document.components.bind (fun components =>
      components.pathItems.get? (Pointer.targetName target))
  else document.paths.get? (Pointer.targetName target)

/-- The number of entries that a path item reference may name. -/
def pathItemCount (document : Document) : Nat :=
  document.paths.size +
    match document.components with
    | some components => components.pathItems.size
    | none => 0

/-- Follow path item references.  `visited` holds the references already followed. -/
def followPathItem (document : Document) (visited : List String) :
    Nat -> String -> Option PathItem
  | 0, _ => none
  | fuel + 1, target =>
      if visited.contains target then none
      else
        match document.pathItemEntry? target with
        | none => none
        | some (.inline item) => some item
        | some (.reference next) => document.followPathItem (target :: visited) fuel next

/-- The path item that a reference reaches.  Each step names another entry, so more
steps than there are entries mean a repeated reference. -/
def pathItem? (document : Document) (target : String) : Option PathItem :=
  document.followPathItem [] (document.pathItemCount + 2) target

end Document
end OpenApiTypes
