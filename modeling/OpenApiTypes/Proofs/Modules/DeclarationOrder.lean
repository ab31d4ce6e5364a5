import OpenApiTypes.Inspection
import OpenApiTypes.Proofs.Document.Reordered
import OpenApiTypes.Proofs.Modules.ParamsNames

namespace OpenApiTypes
namespace Modules

/-!
# What is generated does not depend on the order of declarations

Documents that differ only in the order of paths, components, media types, responses and
properties give the same schemas module, the same descriptors and the same listing.  Each of
these is sorted by what is unique at its level: component schemas and properties by name,
operations by path and method.  The parameters module is sorted by the names of its types,
which are not always distinct; it is the same when they are.
-/

/-! ## Types of alike operations -/

/-- Where a schema is missing, any value is meant. -/
theorem getD_unknown_of_reordered {first second : Option Schema}
    (reordered : Option.Rel Schema.Reordered first second) :
    (first.getD .unknown).Reordered (second.getD .unknown) := by
  cases reordered with
  | none => exact .unknown
  | some same => exact same

section Types

variable (context : TypeScript.TypeContext)

theorem bodyType_of_reordered {first second : Option Content}
    (reordered : Option.Rel Content.Reordered first second) :
    bodyType context first = bodyType context second := by
  cases reordered with
  | none => rfl
  | @some one other same =>
      have found := same.schema? Content.jsonMediaType
      simp only [bodyType, Content.jsonSchema?, same.isBinary_eq]
      generalize Content.schema? one Content.jsonMediaType = left,
        Content.schema? other Content.jsonMediaType = right at found ⊢
      cases found with
      | none => rfl
      | some schemas => exact TypeScript.typeText_eq_of_reordered context schemas

theorem pathParameterType?_of_reordered {first second : Operation}
    (reordered : first.Reordered second) :
    pathParameterType? context first = pathParameterType? context second := by
  funext name
  have parameters := List.rel_reverse (reordered.parametersAt .path)
  have found : Option.Rel Parameter.Reordered
      ((first.parametersAt .path).reverse.find? (fun parameter => parameter.name == name))
      ((second.parametersAt .path).reverse.find? (fun parameter => parameter.name == name)) :=
    find?_of_forall₂ parameters (fun _ _ same => by rw [same.name])
  unfold pathParameterType?
  generalize List.find? _ (first.parametersAt .path).reverse = left,
    List.find? _ (second.parametersAt .path).reverse = right at found ⊢
  cases found with
  | none => rfl
  | some same =>
      exact congrArg some
        (TypeScript.typeText_eq_of_reordered context (getD_unknown_of_reordered same.schema))

end Types

theorem isTyped_of_reordered {first second : Content} (reordered : Content.Reordered first second) :
    isTyped first = isTyped second := by
  have found := reordered.schema? Content.jsonMediaType
  unfold isTyped Content.jsonSchema?
  rw [reordered.isBinary_eq]
  generalize Content.schema? first Content.jsonMediaType = left,
    Content.schema? second Content.jsonMediaType = right at found ⊢
  cases found <;> rfl

/-- The successful responses of alike operations are alike. -/
theorem successResponse?_of_reordered {first second : Operation}
    (reordered : first.Reordered second) :
    Option.Rel Response.Reordered first.successResponse? second.successResponse? :=
  reordered.responses.get? _

theorem returnsBody_of_reordered {first second : Operation} (reordered : first.Reordered second) :
    returnsBody first = returnsBody second := by
  have found := successResponse?_of_reordered reordered
  unfold returnsBody
  generalize first.successResponse? = left, second.successResponse? = right at found ⊢
  cases found with
  | none => rfl
  | some same => exact isTyped_of_reordered same.content

theorem isSome_requestBody_of_reordered {first second : Operation}
    (reordered : first.Reordered second) :
    first.requestBody.isSome = second.requestBody.isSome := by
  have bodies := reordered.requestBody
  generalize first.requestBody = left, second.requestBody = right at bodies ⊢
  cases bodies <;> rfl

private theorem isEmpty_eq_of_forall₂ {Item : Type} {Same : Item -> Item -> Prop}
    {first second : List Item} (each : List.Forall₂ Same first second) :
    first.isEmpty = second.isEmpty := by
  cases each <;> rfl

private theorem any_required_of_forall₂ {first second : List Parameter}
    (each : List.Forall₂ Parameter.Reordered first second) :
    first.any Parameter.required = second.any Parameter.required := by
  induction each with
  | nil => rfl
  | cons same _ inductionHypothesis =>
      rw [List.any_cons, List.any_cons, same.required, inductionHypothesis]

/-- Alike operations have one descriptor. -/
theorem descriptor_of_reordered (settings : Settings) (siblings : Siblings)
    {first second : Endpoint} (reordered : first.Reordered second) :
    descriptor settings siblings first = descriptor settings siblings second := by
  have operations := reordered.operation
  have query := operations.parametersAt .query
  have request := bodyType_of_reordered (siblingContext settings siblings.schemas)
    (rel_optionMap operations.requestBody (fun _ _ same => same.content))
  have response := bodyType_of_reordered (siblingContext settings siblings.schemas)
    (rel_optionMap (successResponse?_of_reordered operations) (fun _ _ same => same.content))
  simp only [descriptor, paramsTypeReference, reordered.method, reordered.path,
    operations.operationId, pathParameterType?_of_reordered _ operations,
    isEmpty_eq_of_forall₂ query, any_required_of_forall₂ query,
    returnsBody_of_reordered operations, isSome_requestBody_of_reordered operations, request,
    response]

/-- Alike operations have one line in the listing. -/
theorem line_of_reordered {first second : Endpoint} (reordered : first.Reordered second) :
    Inspection.line first = Inspection.line second := by
  have operations := reordered.operation
  have query := operations.parametersAt .query
  have path := operations.parametersAt .path
  simp only [Inspection.line, reordered.method, reordered.path, isEmpty_eq_of_forall₂ query,
    query.length_eq, path.length_eq, returnsBody_of_reordered operations,
    isSome_requestBody_of_reordered operations]

/-- What is made of the sorted operations one by one is the same, when alike operations give
the same. -/
theorem map_sortedEndpoints_of_reordered {Made : Type} {make : Endpoint -> Made}
    {first second : Document} (reordered : first.Reordered second)
    (agree : forall one other : Endpoint, one.Reordered other -> make one = make other) :
    first.sortedEndpoints.map make = second.sortedEndpoints.map make := by
  rcases reordered.endpoints with ⟨middle, each, order⟩
  have shown : first.endpoints.map (fun endpoint => (endpoint.path, make endpoint)) =
      middle.map (fun endpoint => (endpoint.path, make endpoint)) := by
    refine map_eq_of_forall₂ each ?_
    intro one _ other same
    rw [same.path, agree one other same]
  calc
    first.sortedEndpoints.map make = (Text.sortOn Endpoint.path middle).map make :=
      Text.map_sortOn_congr shown
    _ = second.sortedEndpoints.map make := by rw [order.sortOn_eq, Document.sortedEndpoints]

/-! ## The schemas module -/

theorem schemasBody?_of_reordered (settings : Settings) {first second : Document}
    (reordered : first.Reordered second) :
    schemasBody? settings first = schemasBody? settings second := by
  have schemas : Option.Rel (Registry.Reordered Schema.Reordered) first.schemas? second.schemas? :=
    rel_optionMap reordered.components (fun _ _ same => same.schemas)
  unfold schemasBody?
  generalize first.schemas? = left, second.schemas? = right at schemas ⊢
  cases schemas with
  | none => rfl
  | @some one other same =>
      rcases same.shuffled with ⟨middle, each, order⟩
      have shown : one.entries.map (fun entry => (entry.1, aliasText entry.1
            (TypeScript.typeText (localContext settings) entry.2))) =
          middle.map (fun entry => (entry.1, aliasText entry.1
            (TypeScript.typeText (localContext settings) entry.2))) := by
        refine map_eq_of_forall₂ each ?_
        intro entry _ another alike
        rw [alike.1, TypeScript.typeText_eq_of_reordered _ alike.2]
      have texts := Text.map_sortOn_congr shown
      rw [order.sortOn_eq] at texts
      simp only [same.isEmpty_eq, texts]

/-! ## The parameters module -/

/-- The parameters type of an operation by its name and its text. -/
def shownAlias? (context : TypeScript.TypeContext) (endpoint : Endpoint) :
    Option (String × String) :=
  (paramsAlias? endpoint).map (fun declared => (declared.name, declared.text context))

/-- Alike operations have one parameters type, as far as its name and its text go. -/
theorem shownAlias?_of_reordered (context : TypeScript.TypeContext) {first second : Endpoint}
    (reordered : first.Reordered second) :
    shownAlias? context first = shownAlias? context second := by
  have query := reordered.operation.parametersAt .query
  have hasQuery : first.hasQuery = second.hasQuery :=
    congrArg (! ·) (isEmpty_eq_of_forall₂ query)
  have name : (ownAlias first).name = (ownAlias second).name := by
    simp only [ownAlias, reordered.method, reordered.path]
  have entries : (ownAlias first).entries.map (QueryMember.text context) =
      (ownAlias second).entries.map (QueryMember.text context) := by
    refine Text.map_sortOn_congr ?_
    rw [List.map_map, List.map_map]
    refine map_eq_of_forall₂ query ?_
    intro one _ other same
    have schemas := getD_unknown_of_reordered same.schema
    have text : (queryMember one).text context = (queryMember other).text context := by
      unfold queryMember QueryMember.text
      rw [same.name, same.required, TypeScript.typeText_eq_of_reordered context schemas,
        TypeScript.typeText_eq_of_reordered context schemas.toNullable]
    exact Prod.ext (congrArg Naming.parameterKey same.name) text
  have texts : (ownAlias first).text context = (ownAlias second).text context := by
    rw [ParamsAlias.text, ParamsAlias.text, name, entries]
  rw [shownAlias?, shownAlias?, paramsAlias?_eq, paramsAlias?_eq, hasQuery]
  cases second.hasQuery with
  | false => rfl
  | true => exact congrArg some (Prod.ext name texts)

/-- Types of distinct names are written in one order, whatever order the operations have. -/
theorem map_text_paramsAliases_of_reordered (context : TypeScript.TypeContext)
    {first second : Document} (reordered : first.Reordered second)
    (distinct : ((paramsAliases first).map ParamsAlias.name).Nodup) :
    (paramsAliases first).map (ParamsAlias.text context) =
      (paramsAliases second).map (ParamsAlias.text context) := by
  rcases reordered.endpoints with ⟨middle, each, order⟩
  have shown : first.endpoints.filterMap (shownAlias? context) =
      middle.filterMap (shownAlias? context) := by
    have each := map_eq_of_forall₂ each (fun _ _ _ same => shownAlias?_of_reordered context same)
    simpa only [List.filterMap_map, Function.id_comp] using congrArg (List.filterMap id) each
  have made (endpoints : List Endpoint) : endpoints.filterMap (shownAlias? context) =
      (endpoints.filterMap paramsAlias?).map
        (fun declared => (declared.name, declared.text context)) :=
    List.map_filterMap.symm
  have names : ((middle.filterMap (shownAlias? context)).map Prod.fst).Nodup := by
    rw [← shown, made, List.map_map]
    exact ((Text.sortOn_perm ParamsAlias.name _).map ParamsAlias.name).nodup_iff.mp distinct
  have arranged := (Text.shuffled_iff_perm names).mpr
    (order.perm.filterMap (shownAlias? context))
  have sorted (document : Document) : (paramsAliases document).map (ParamsAlias.text context) =
      (Text.sortOn Prod.fst (document.endpoints.filterMap (shownAlias? context))).map
        Prod.snd := by
    rw [made, Text.sortOn_map, List.map_map]
    rfl
  rw [sorted first, sorted second, shown, arranged.sortOn_eq]

/-- The parameters module depends on the texts of its types alone. -/
private theorem paramsBody?_congr {settings : Settings} {schemasGenerated : Bool}
    {first second : Document}
    (texts : (paramsAliases first).map (ParamsAlias.text (siblingContext settings schemasGenerated)) =
      (paramsAliases second).map (ParamsAlias.text (siblingContext settings schemasGenerated))) :
    paramsBody? settings schemasGenerated first = paramsBody? settings schemasGenerated second := by
  unfold paramsBody?
  generalize paramsAliases first = left, paramsAliases second = right at texts ⊢
  cases left with
  | nil =>
      cases right with
      | nil => rfl
      | cons other others => cases texts
  | cons one rest =>
      cases right with
      | nil => cases texts
      | cons other others => simp only [texts]

/-! ## All generators together -/

/-- Documents that differ only in the order of paths, components, media types, responses and
properties give the same schemas module, the same descriptors and the same listing.  Where
the types of the parameters module have distinct names, they give the same parameters module
too. -/
theorem generated_eq_of_reordered (settings : Settings) (siblings : Siblings)
    {first second : Document} (reordered : first.Reordered second) :
    schemasBody? settings first = schemasBody? settings second ∧
      schemasBody? settings first.selfContained = schemasBody? settings second.selfContained ∧
      descriptors settings siblings first.selfContained =
        descriptors settings siblings second.selfContained ∧
      Inspection.lines first = Inspection.lines second ∧
      (((paramsAliases first.selfContained).map ParamsAlias.name).Nodup ->
        forall schemasGenerated : Bool,
          paramsBody? settings schemasGenerated first.selfContained =
            paramsBody? settings schemasGenerated second.selfContained) := by
  have ready := reordered.selfContained
  refine ⟨schemasBody?_of_reordered settings reordered, schemasBody?_of_reordered settings ready,
    ?_, ?_, ?_⟩
  · exact map_sortedEndpoints_of_reordered ready
      (fun _ _ same => descriptor_of_reordered settings siblings same)
  · exact map_sortedEndpoints_of_reordered ready (fun _ _ same => line_of_reordered same)
  · intro distinct schemasGenerated
    exact paramsBody?_congr (map_text_paramsAliases_of_reordered _ ready distinct)

/-- Two properties. -/
def itemProperties : List Schema.Property :=
  [⟨"name", false, .primitive .string none⟩, ⟨"id", true, .primitive .integer none⟩]

/-- An operation with a query parameter of these properties and a JSON response. -/
def listItems (properties : List Schema.Property) : Operation where
  operationId := none
  parameters := some [.inline ⟨"where", .query, true, some (.object properties)⟩]
  requestBody := none
  responses := ⟨[("200", ⟨⟨[(Content.jsonMediaType, ⟨some (.object properties)⟩)],
    List.nodup_singleton _⟩⟩)], List.nodup_singleton _⟩

/-- Two paths and two component schemas. -/
def catalogue : Document where
  paths := ⟨[("/items", .inline { get := some (listItems itemProperties) }),
    ("/about", .reference "#/paths/~1items")], by decide⟩
  components := some ⟨⟨[("Item", .object itemProperties), ("Id", .reference "Item")], by decide⟩,
    .empty, .empty⟩

/-- The same, all in the opposite order. -/
def turnedCatalogue : Document where
  paths := ⟨[("/about", .reference "#/paths/~1items"),
    ("/items", .inline { get := some (listItems itemProperties.reverse) })], by decide⟩
  components := some ⟨⟨[("Id", .reference "Item"), ("Item", .object itemProperties.reverse)],
    by decide⟩, .empty, .empty⟩

theorem catalogue_reordered : catalogue.Reordered turnedCatalogue := by
  have item : (Schema.object itemProperties).Reordered (.object itemProperties.reverse) :=
    .object_of_perm (by decide) (List.reverse_perm itemProperties).symm
  have parameters : ParametersReordered
      [.inline ⟨"where", .query, true, some (.object itemProperties)⟩]
      [.inline ⟨"where", .query, true, some (.object itemProperties.reverse)⟩] :=
    .cons (.inline ⟨rfl, rfl, rfl, .some item⟩) .nil
  have content : Content.Reordered
      ⟨[(Content.jsonMediaType, ⟨some (.object itemProperties)⟩)], List.nodup_singleton _⟩
      ⟨[(Content.jsonMediaType, ⟨some (.object itemProperties.reverse)⟩)],
        List.nodup_singleton _⟩ :=
    ⟨[(_, ⟨some (.object itemProperties.reverse)⟩)], .cons ⟨rfl, ⟨.some item⟩⟩ .nil, .refl _⟩
  have responses : Registry.Reordered Response.Reordered (listItems itemProperties).responses
      (listItems itemProperties.reverse).responses :=
    ⟨(listItems itemProperties.reverse).responses.entries, .cons ⟨rfl, ⟨content⟩⟩ .nil, .refl _⟩
  have operation : (listItems itemProperties).Reordered (listItems itemProperties.reverse) :=
    ⟨rfl, .some parameters, .none, responses⟩
  have items : PathItem.Reordered { get := some (listItems itemProperties) }
      { get := some (listItems itemProperties.reverse) } := by
    refine ⟨.none, ?_⟩
    intro method
    cases method with
    | get => exact .some operation
    | _ => exact .none
  constructor
  · exact ⟨[("/items", .inline { get := some (listItems itemProperties.reverse) }),
      ("/about", .reference "#/paths/~1items")],
      .cons ⟨rfl, .inline items⟩ (.cons ⟨rfl, .reference _⟩ .nil), .swap _ _ _⟩
  · refine .some ⟨?_, ⟨[], .nil, .refl _⟩, ⟨[], .nil, .refl _⟩⟩
    exact ⟨[("Item", .object itemProperties.reverse), ("Id", .reference "Item")],
      .cons ⟨rfl, item⟩ (.cons ⟨rfl, .reference _⟩ .nil), .swap _ _ _⟩

/-- Both catalogues give one parameters module. -/
theorem generated_catalogue_eq :
    catalogue.Reordered turnedCatalogue ∧
      ((paramsAliases catalogue.selfContained).map ParamsAlias.name).Nodup ∧
      paramsBody? {} true catalogue.selfContained =
        paramsBody? {} true turnedCatalogue.selfContained := by
  have distinct : ((paramsAliases catalogue.selfContained).map ParamsAlias.name).Nodup := by
    rw [((paramsAliases_perm _).map ParamsAlias.name).nodup_iff]
    decide
  have same := generated_eq_of_reordered {} ⟨true, true⟩ catalogue_reordered
  exact ⟨catalogue_reordered, distinct, same.2.2.2.2 distinct true⟩

end Modules
end OpenApiTypes
