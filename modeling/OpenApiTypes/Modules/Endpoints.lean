import OpenApiTypes.Failure
import OpenApiTypes.Modules.Descriptor
import OpenApiTypes.Modules.Kind

namespace OpenApiTypes
namespace Modules

/-!
# The endpoints module

The renderer writes each operation and then what stands around all of them.  The
imports of sibling modules are not its concern: they are put in front.
-/

/-- How endpoints are written. -/
structure Renderer where
  /-- The text of one endpoint. -/
  endpoint : Descriptor -> Except Failure String
  /-- The module around the texts of all endpoints. -/
  module : String -> Except Failure String

/-- The imports of the sibling modules that are generated. -/
def siblingImports (settings : Settings) (siblings : Siblings) : List String :=
  (if siblings.schemas then [ModuleKind.schemas.namespaceImport settings.aliases.schemas]
    else []) ++
  (if siblings.params then [ModuleKind.params.namespaceImport settings.aliases.params] else [])

/-- A body below its imports. -/
def belowImports (imports : List String) (body : String) : String :=
  match imports with
  | [] => body
  | _ => String.intercalate "\n" imports ++ "\n\n" ++ body

/-- The body of the endpoints module; none without operations. -/
def endpointsBody? (settings : Settings) (renderer : Renderer) (siblings : Siblings)
    (document : Document) : Except Failure (Option String) :=
  match descriptors settings siblings document with
  | [] => .ok none
  | described => do
      let fragments <- described.mapM renderer.endpoint
      let body <- renderer.module (String.intercalate "\n" fragments)
      pure (some (belowImports (siblingImports settings siblings) body))

end Modules
end OpenApiTypes
