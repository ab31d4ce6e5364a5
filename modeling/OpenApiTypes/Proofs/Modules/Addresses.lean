import OpenApiTypes.Proofs.Document.PointerEncoding
import OpenApiTypes.Proofs.Document.ReferenceChain
import OpenApiTypes.Proofs.Modules.WrittenTypes

namespace OpenApiTypes

/-!
# Every entry has an address

Whatever an entry is called, there is a reference to it: the registry, a slash and the
encoded name.  It is followed to this entry and to no other one, and as the type of a
schema it is the name that the schemas module declares.
-/

namespace Document

theorem parameter?_encode (document : Document) (name : String) :
    document.parameter? ("#/components/parameters/" ++ Pointer.encode name) =
      document.components.bind (fun components => components.parameters.get? name) := by
  have joined : "#/components/parameters/" = "#/components/parameters" ++ "/" := rfl
  rw [joined, parameter?, Pointer.registryName?_encode, if_pos (by decide),
    Pointer.targetName_encode]

theorem pathItemEntry?_paths_encode (document : Document) (name : String) :
    document.pathItemEntry? ("#/paths/" ++ Pointer.encode name) = document.paths.get? name := by
  have joined : "#/paths/" = "#/paths" ++ "/" := rfl
  rw [joined, pathItemEntry?, Pointer.registryName?_encode, if_neg (by decide),
    Pointer.targetName_encode]

theorem pathItemEntry?_components_encode (document : Document) (name : String) :
    document.pathItemEntry? ("#/components/pathItems/" ++ Pointer.encode name) =
      document.components.bind (fun components => components.pathItems.get? name) := by
  have joined : "#/components/pathItems/" = "#/components/pathItems" ++ "/" := rfl
  rw [joined, pathItemEntry?, Pointer.registryName?_encode, if_pos (by decide),
    Pointer.targetName_encode]

/-- A reference is followed to the item that its entry reaches. -/
theorem pathItem?_eq_some_iff_of_entry {document : Document} {target : String}
    {found : Option (Referable PathItem)} (names : document.pathItemEntry? target = found)
    (item : PathItem) :
    document.pathItem? target = some item ↔
      ∃ entry, found = some entry ∧ document.Reaches entry item := by
  subst names
  rw [pathItem?_eq_some_iff]
  constructor
  · rintro (_ | ⟨named, later⟩)
    exact ⟨_, named, later⟩
  · rintro ⟨entry, named, later⟩
    exact .reference named later

end Document

namespace Modules

theorem typeText_reference (context : TypeScript.TypeContext) (target : String) :
    TypeScript.typeText context (.reference target) =
      TypeScript.TypeExpr.declaredText context.qualifier (Pointer.targetName target) := rfl

theorem typeText_encode (fallback : Fallback) (name : String) :
    TypeScript.typeText ⟨none, fallback⟩
      (.reference ("#/components/schemas/" ++ Pointer.encode name)) = name := by
  have joined : "#/components/schemas/" = "#/components/schemas" ++ "/" := rfl
  rw [joined, typeText_reference, Pointer.targetName_encode]
  rfl

/-- The references with the encoded name address the entries under the name: the parameter,
the path, the path item and, in the type of a schema, the declaration. -/
structure Addressed (document : Document) (name : String) : Prop where
  parameter : document.parameter? ("#/components/parameters/" ++ Pointer.encode name) =
    document.components.bind (fun components => components.parameters.get? name)
  path : document.pathItemEntry? ("#/paths/" ++ Pointer.encode name) = document.paths.get? name
  pathItem : document.pathItemEntry? ("#/components/pathItems/" ++ Pointer.encode name) =
    document.components.bind (fun components => components.pathItems.get? name)
  followedPath (item : PathItem) :
    document.pathItem? ("#/paths/" ++ Pointer.encode name) = some item ↔
      ∃ entry, document.paths.get? name = some entry ∧ document.Reaches entry item
  followedPathItem (item : PathItem) :
    document.pathItem? ("#/components/pathItems/" ++ Pointer.encode name) = some item ↔
      ∃ entry, document.components.bind (fun components => components.pathItems.get? name) =
        some entry ∧ document.Reaches entry item
  schema (fallback : Fallback) : TypeScript.typeText ⟨none, fallback⟩
    (.reference ("#/components/schemas/" ++ Pointer.encode name)) = name

theorem addressed (document : Document) (name : String) : Addressed document name where
  parameter := document.parameter?_encode name
  path := document.pathItemEntry?_paths_encode name
  pathItem := document.pathItemEntry?_components_encode name
  followedPath :=
    Document.pathItem?_eq_some_iff_of_entry (document.pathItemEntry?_paths_encode name)
  followedPathItem :=
    Document.pathItem?_eq_some_iff_of_entry (document.pathItemEntry?_components_encode name)
  schema fallback := typeText_encode fallback name

/-- Decoding undoes encoding, so every name is addressed in every document, and the schemas
module declares each component schema under the type of the reference that addresses it. -/
theorem encodedNames_addressed :
    (forall name : String, Pointer.decodeSegment (Pointer.encode name) = name) ∧
    forall document : Document,
      (forall name : String, Addressed document name) ∧
      forall settings : Settings,
        schemasBody? settings document =
          if document.componentSchemas.isEmpty then none
          else some (String.intercalate "\n\n"
            ((Text.sortOn Prod.fst document.componentSchemas).map (fun entry =>
              "export type " ++
                TypeScript.typeText (localContext settings)
                  (.reference ("#/components/schemas/" ++ Pointer.encode entry.1)) ++ " = " ++
                TypeScript.typeText (localContext settings) entry.2 ++ ";"))) := by
  refine ⟨Pointer.decodeSegment_encode, fun document => ⟨addressed document, ?_⟩⟩
  intro settings
  have declared : forall entry : String × Schema,
      TypeScript.typeText (localContext settings)
        (.reference ("#/components/schemas/" ++ Pointer.encode entry.1)) = entry.1 :=
    fun entry => typeText_encode settings.fallback entry.1
  simp only [declared]
  exact schemasBody?_eq settings document

end Modules
end OpenApiTypes
