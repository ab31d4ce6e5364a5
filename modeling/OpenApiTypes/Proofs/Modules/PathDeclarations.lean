import OpenApiTypes.Proofs.Document.SelfContained
import OpenApiTypes.Proofs.Modules.PathParts

namespace OpenApiTypes

/-!
# The declaration that an expression in a path stands for

An operation declares the parameters that its path item shares and then its own ones, and a
reference declares what it names.  An expression in the path stands for the last declaration
of its name, carried in the path.  So an operation's own declaration takes the place of a
shared one however the two are written, and a declaration for another location takes no part.

The main statement goes from the document as it is read to the type that is interpolated.  It
does not look at the steps in between: that references are followed, that shared parameters
are moved, and that the last parameter of a name is taken.
-/

namespace Document

/-! ## The declarations of an operation -/

/-- The parameter that a listed parameter declares.  A reference declares the component
parameter that it names, and nothing when it names none. -/
def declaration? (document : Document) : Referable Parameter -> Option Parameter
  | .inline parameter => some parameter
  | .reference target => document.parameter? target

/-- The parameters that a list declares, in order; no list declares nothing. -/
def declarations (document : Document) (listed : Option (List (Referable Parameter))) :
    List Parameter :=
  (listed.getD []).filterMap document.declaration?

theorem inline?_inlineParameter (document : Document) (listed : Referable Parameter) :
    (document.inlineParameter listed).inline? = document.declaration? listed := by
  cases listed with
  | inline parameter => rfl
  | reference target =>
      rw [inlineParameter, declaration?]
      cases document.parameter? target <;> rfl

/-- An operation of the self-contained document has the shared declarations and then its own. -/
theorem filterMap_inline?_listedParameters (document : Document)
    (shared own : Option (List (Referable Parameter))) :
    ((document.listedParameters shared own).getD []).filterMap Referable.inline? =
      document.declarations shared ++ document.declarations own := by
  have same : Referable.inline? ∘ document.inlineParameter = document.declaration? :=
    funext document.inline?_inlineParameter
  rw [getD_listedParameters, List.filterMap_map, same, List.filterMap_append, declarations,
    declarations]

/-- An operation that the document declares under a path and a method: the path leads to the
path item, and the item has the operation. -/
structure Declares (document : Document) (path : String) (method : Method) (item : PathItem)
    (operation : Operation) : Prop where
  reached : Exists fun entry : Referable PathItem =>
    document.paths.get? path = some entry ∧ document.Reaches entry item
  found : item.operation? method = some operation

/-- A declared operation as the self-contained document has it. -/
def selfContainedEndpoint (document : Document) (path : String) (method : Method)
    (item : PathItem) (operation : Operation) : Endpoint :=
  ⟨method, path,
    { operation with parameters := document.listedParameters item.parameters operation.parameters }⟩

theorem mem_endpoints_selfContained {document : Document} {path : String} {method : Method}
    {item : PathItem} {operation : Operation}
    (declares : document.Declares path method item operation) :
    document.selfContainedEndpoint path method item operation ∈
      document.selfContained.endpoints := by
  rcases declares with ⟨⟨entry, found, reached⟩, declared⟩
  rw [mem_endpoints_iff]
  refine ⟨document.selfContainedForm item, ?_, ?_⟩
  · rw [← Registry.get?_eq_some_iff]
    exact (document.get?_paths_selfContained_eq_some_iff path _).mpr
      ⟨entry, item, found, reached, rfl⟩
  · exact (document.operation?_selfContainedForm item method).trans
      (congrArg (Option.map _) declared)

theorem pathParameter?_selfContainedEndpoint (document : Document) (path : String)
    (method : Method) (item : PathItem) (operation : Operation) (name : String) :
    (document.selfContainedEndpoint path method item operation).operation.pathParameter? name =
      lastDeclaration?
        (document.declarations item.parameters ++ document.declarations operation.parameters)
        name := by
  rw [lastDeclaration?, ← filterMap_inline?_listedParameters]
  rfl

end Document

/-- Methods have different names. -/
theorem Method.name_injective {first second : Method} (same : first.name = second.name) :
    first = second := by
  cases first <;> cases second <;> first | rfl | exact absurd same (by decide)

namespace Modules

/-! ## The types of expressions -/

/-- The type that is interpolated for an expression: that of the last declaration that fits
it, unknown where the declaration has no schema, and `never` where none fits. -/
inductive Typed (context : TypeScript.TypeContext) (declarations : List Parameter)
    (name : String) : String -> Prop
  | declared {parameter : Parameter} (last : DeclaresLast declarations name parameter) :
      Typed context declarations name
        (TypeScript.typeText context (parameter.schema.getD .unknown))
  | undeclared (none : ∀ parameter ∈ declarations, ¬parameter.Fits name) :
      Typed context declarations name "never"

/-- The part interpolates the type of the expression that the segment is. -/
def Interpolates (context : TypeScript.TypeContext) (declarations : List Parameter)
    (segment : List Char) (part : TemplatePart) : Prop :=
  forall name : List Char, IsExpressionName name -> segment = braced name ->
    Exists fun type : String =>
      Typed context declarations (String.ofList name) type ∧ part = .interpolation type

theorem typed_expressionType {context : TypeScript.TypeContext} {operation : Operation}
    {declarations : List Parameter} {name : List Char}
    (searched : operation.pathParameter? (String.ofList name) =
      lastDeclaration? declarations (String.ofList name)) :
    Typed context declarations (String.ofList name) (expressionType context operation name) := by
  rw [expressionType, searched]
  cases found : lastDeclaration? declarations (String.ofList name) with
  | none => exact .undeclared ((lastDeclaration?_eq_none_iff ..).mp found)
  | some parameter => exact .declared ((lastDeclaration?_eq_some_iff ..).mp found)

/-- An operation that a document declares has one descriptor.  In its path type, the part of
each segment that is an expression interpolates the type of the last declaration that fits the
expression, among the shared ones and then the operation's own.  So a declaration of its own
takes the place of shared ones. -/
theorem pathType_declarations (settings : Settings) (siblings : Siblings) {document : Document}
    {path : String} {method : Method} {item : PathItem} {operation : Operation}
    (declares : document.Declares path method item operation) :
    (Exists fun made : Descriptor =>
      (forall other : Descriptor,
        (other ∈ descriptors settings siblings document.selfContained ∧
          other.path = path ∧ other.method = method.name) ↔ other = made) ∧
      Exists fun parts : List TemplatePart =>
        List.Forall₂
          (Interpolates (siblingContext settings siblings.schemas)
            (document.declarations item.parameters ++
              document.declarations operation.parameters))
          (pathSegments path) parts ∧
        forall name : List Char, IsExpressionName name -> braced name ∈ pathSegments path ->
          made.pathType =
            "`/" ++ String.intercalate "/" (parts.map TemplatePart.text) ++ "`") ∧
    forall (name : String) (parameter : Parameter),
      DeclaresLast (document.declarations operation.parameters) name parameter ->
        DeclaresLast
          (document.declarations item.parameters ++ document.declarations operation.parameters)
          name parameter := by
  let endpoint := document.selfContainedEndpoint path method item operation
  let context := siblingContext settings siblings.schemas
  have member : endpoint ∈ document.selfContained.endpoints :=
    Document.mem_endpoints_selfContained declares
  refine ⟨⟨descriptor settings siblings endpoint, ?_,
    (pathSegments path).map (segmentPart context endpoint.operation), ?_, ?_⟩, ?_⟩
  · intro other
    constructor
    · rintro ⟨listed, samePath, sameMethod⟩
      rcases List.mem_map.mp listed with ⟨another, anotherListed, rfl⟩
      have same : another = endpoint :=
        document.selfContained.endpoint_unique
          ((Document.mem_sortedEndpoints_iff _ another).mp anotherListed) member samePath
          (Method.name_injective sameMethod)
      rw [same]
    · rintro rfl
      refine ⟨List.mem_map_of_mem ?_, rfl, rfl⟩
      exact (Document.mem_sortedEndpoints_iff _ endpoint).mpr member
  · rw [List.forall₂_map_right_iff, List.forall₂_same]
    intro segment _ name isName same
    refine ⟨expressionType context endpoint.operation name, typed_expressionType ?_, ?_⟩
    · exact document.pathParameter?_selfContainedEndpoint path method item operation _
    · exact (becomesPart_segmentPart context endpoint.operation segment).expression name isName same
  · exact fun name isName listed =>
      pathType_of_some context endpoint.operation ⟨_, listed, name, isName.1, rfl⟩
  · exact fun name parameter last => last.append_left _

/-- A path item that shares a number by reference, with an operation of its own string. -/
def overridingItem : PathItem where
  parameters := some [.reference "#/components/parameters/Id"]
  get := some
    ⟨none, some [.inline ⟨"id", .path, true, some (.primitive .string none)⟩,
      .inline ⟨"id", .query, false, some (.primitive .boolean none)⟩,
      .reference "#/components/parameters/Missing"], none, .empty⟩

/-- A document whose only path leads to the path item. -/
def overridingDocument : Document where
  paths := ⟨[("/\x7bid\x7d", .reference "#/components/pathItems/Item")], by decide⟩
  components := some
    { schemas := .empty
      parameters := ⟨[("Id", ⟨"id", .path, true, some (.primitive .integer none)⟩)], by decide⟩
      pathItems := ⟨[("Item", .inline overridingItem)], by decide⟩ }

/-- The operation's own string is interpolated, and not the shared number. -/
theorem pathType_overridingDocument :
    Exists fun operation : Operation =>
      overridingDocument.Declares "/\x7bid\x7d" .get overridingItem operation ∧
        Exists fun made : Descriptor =>
          made ∈ descriptors {} ⟨false, false⟩ overridingDocument.selfContained ∧
            made.pathType = "`/$\x7bstring\x7d`" := by
  have declares : overridingDocument.Declares "/\x7bid\x7d" .get overridingItem _ :=
    ⟨⟨_, rfl, .reference (by rfl) (.inline _)⟩, rfl⟩
  refine ⟨_, declares, ?_⟩
  rcases (pathType_declarations {} ⟨false, false⟩ declares).1 with ⟨made, only, parts, each, text⟩
  have segments : pathSegments "/\x7bid\x7d" = [braced "id".toList] := by decide
  have isName : IsExpressionName "id".toList := by decide
  rw [segments] at each text
  rcases List.forall₂_cons_left_iff.mp each with ⟨part, others, interpolates, none, rfl⟩
  cases List.forall₂_nil_left_iff.mp none
  rcases interpolates "id".toList isName rfl with ⟨type, typed, rfl⟩
  refine ⟨made, ((only made).mpr rfl).1, ?_⟩
  rw [text _ isName (List.mem_singleton.mpr rfl)]
  cases typed with
  | undeclared none => exact absurd ⟨rfl, rfl⟩ (none _ (List.mem_append_right _ List.mem_cons_self))
  | declared last =>
      cases ((lastDeclaration?_eq_some_iff ..).mpr last).symm.trans rfl
      decide

end Modules
end OpenApiTypes
