import OpenApiTypes.Document.Resolution

namespace OpenApiTypes
namespace Document

/-!
# Self-contained paths

The generators look at one operation at a time.  So that an operation shows all its
parameters, path item references are replaced by what they reach, shared parameters are
moved in front of the parameters of each operation, and parameter references are
replaced by their definitions.  A path whose reference reaches nothing is dropped; a
parameter reference that names nothing stays.
-/

/-- Put shared parameters in front of the parameters of an operation. -/
def shareWith (shared : List (Referable Parameter)) (operation : Operation) : Operation :=
  { operation with parameters := some (shared ++ operation.parameters.getD []) }

/-- Move the shared parameters of a path item into its operations. -/
def hoistShared (item : PathItem) : PathItem :=
  match item.parameters with
  | none => item
  | some shared => { item.mapOperations (shareWith shared) with parameters := none }

/-- Replace a parameter reference by its definition. -/
def inlineParameter (document : Document) : Referable Parameter -> Referable Parameter
  | .inline parameter => .inline parameter
  | .reference target =>
      match document.parameter? target with
      | some parameter => .inline parameter
      | none => .reference target

/-- Replace the parameter references of an operation. -/
def inlineParameters (document : Document) (operation : Operation) : Operation :=
  { operation with parameters := operation.parameters.map (List.map document.inlineParameter) }

/-- Whether there are component parameters. -/
def hasParameters (document : Document) : Bool :=
  match document.components with
  | some components => !components.parameters.isEmpty
  | none => false

/-- Replace the parameter references of a path item.  Without component parameters there
is nothing to replace them with, and the operations are not looked at. -/
def inlineItem (document : Document) (item : PathItem) : PathItem :=
  if document.hasParameters then item.mapOperations document.inlineParameters else item

/-- The path item of an entry, with its operations showing all their parameters. -/
def selfContainedItem? (document : Document) (entry : Referable PathItem) : Option PathItem :=
  let item? := match entry with
    | .inline item => some item
    | .reference target => document.pathItem? target
  item?.map (fun item => document.inlineItem (hoistShared item))

/-- The document with self-contained paths. -/
def selfContained (document : Document) : Document :=
  { document with
    paths := document.paths.filterMap (fun entry =>
      (document.selfContainedItem? entry.2).map .inline) }

end Document
end OpenApiTypes
