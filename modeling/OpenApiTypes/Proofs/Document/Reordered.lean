import OpenApiTypes.Document.SelfContained
import OpenApiTypes.Proofs.Document.Endpoints
import OpenApiTypes.Proofs.Registry.Reordered
import OpenApiTypes.Proofs.Schema.Reordered

namespace OpenApiTypes

/-!
# Documents in another order

Paths, components, media types and responses are declared under names, and so are the
properties of object schemas; none of these orders means anything.  The order of parameters
and that of alternatives does.  Two documents that differ only in orders without a meaning
still do when their paths are made self-contained, and their operations are the same one by
one up to such orders, once they stand in the order of their paths.
-/

/-! ## Documents that differ in order alone -/

/-- A definition in place of an alike one, or the same reference. -/
inductive Referable.Alike {Definition : Type} (Same : Definition -> Definition -> Prop) :
    Referable Definition -> Referable Definition -> Prop
  | reference (target : String) : Alike Same (.reference target) (.reference target)
  | inline {first second : Definition} (same : Same first second) :
      Alike Same (.inline first) (.inline second)

structure Parameter.Reordered (first second : Parameter) : Prop where
  name : first.name = second.name
  location : first.location = second.location
  required : first.required = second.required
  schema : Option.Rel Schema.Reordered first.schema second.schema

/-- Parameters stand in one order on both sides. -/
abbrev ParametersReordered : List (Referable Parameter) -> List (Referable Parameter) -> Prop :=
  List.Forall₂ (Referable.Alike Parameter.Reordered)

structure MediaType.Reordered (first second : MediaType) : Prop where
  schema : Option.Rel Schema.Reordered first.schema second.schema

abbrev Content.Reordered : Content -> Content -> Prop :=
  Registry.Reordered MediaType.Reordered

structure RequestBody.Reordered (first second : RequestBody) : Prop where
  required : first.required = second.required
  content : Content.Reordered first.content second.content

structure Response.Reordered (first second : Response) : Prop where
  content : Content.Reordered first.content second.content

structure Operation.Reordered (first second : Operation) : Prop where
  operationId : first.operationId = second.operationId
  parameters : Option.Rel ParametersReordered first.parameters second.parameters
  requestBody : Option.Rel RequestBody.Reordered first.requestBody second.requestBody
  responses : Registry.Reordered Response.Reordered first.responses second.responses

structure PathItem.Reordered (first second : PathItem) : Prop where
  parameters : Option.Rel ParametersReordered first.parameters second.parameters
  operation : forall method : Method,
    Option.Rel Operation.Reordered (first.operation? method) (second.operation? method)

structure Components.Reordered (first second : Components) : Prop where
  schemas : Registry.Reordered Schema.Reordered first.schemas second.schemas
  parameters : Registry.Reordered Parameter.Reordered first.parameters second.parameters
  pathItems : Registry.Reordered (Referable.Alike PathItem.Reordered) first.pathItems
    second.pathItems

/-- Two documents that differ only in the order of paths, components, media types, responses
and properties. -/
structure Document.Reordered (first second : Document) : Prop where
  paths : Registry.Reordered (Referable.Alike PathItem.Reordered) first.paths second.paths
  components : Option.Rel Components.Reordered first.components second.components

/-! ## Operations -/

private theorem inline?_of_alike {Definition : Type} {Same : Definition -> Definition -> Prop}
    {first second : Referable Definition} (alike : Referable.Alike Same first second) :
    Option.Rel Same first.inline? second.inline? := by
  cases alike with
  | reference target => exact .none
  | inline same => exact .some same

private theorem getD_of_rel {first second : Option (List (Referable Parameter))}
    (reordered : Option.Rel ParametersReordered first second) :
    ParametersReordered (first.getD []) (second.getD []) := by
  cases reordered with
  | none => exact .nil
  | some each => exact each

/-- The parameters at a location are the same one by one. -/
theorem Operation.Reordered.parametersAt {first second : Operation}
    (reordered : first.Reordered second) (location : Location) :
    List.Forall₂ Parameter.Reordered (first.parametersAt location)
      (second.parametersAt location) := by
  have inline := List.rel_filterMap (fun _ _ alike => inline?_of_alike alike)
    (getD_of_rel reordered.parameters)
  refine List.rel_filter ?_ inline
  intro one other same
  change (one.location == location) = true ↔ (other.location == location) = true
  rw [same.location]

namespace Content.Reordered

variable {first second : Content}

theorem schema? (reordered : Content.Reordered first second) (mediaType : String) :
    Option.Rel Schema.Reordered (Content.schema? first mediaType)
      (Content.schema? second mediaType) := by
  have found := reordered.get? mediaType
  unfold Content.schema?
  generalize first.get? mediaType = left, second.get? mediaType = right at found ⊢
  cases found with
  | none => exact .none
  | some same => exact same.schema

theorem isBinary_eq (reordered : Content.Reordered first second) :
    Content.isBinary first = Content.isBinary second := by
  have found := reordered.schema? Content.binaryMediaType
  unfold Content.isBinary
  generalize Content.schema? first Content.binaryMediaType = left,
    Content.schema? second Content.binaryMediaType = right at found ⊢
  cases found with
  | none => rfl
  | some same => exact same.isBinary_eq

end Content.Reordered

namespace PathItem.Reordered

variable {first second : PathItem}

theorem mapOperations (reordered : first.Reordered second) {change other : Operation -> Operation}
    (agree : forall one two : Operation, one.Reordered two -> (change one).Reordered (other two)) :
    (first.mapOperations change).Reordered (second.mapOperations other) where
  parameters := reordered.parameters
  operation := by
    intro method
    rw [operation?_mapOperations, operation?_mapOperations]
    exact rel_optionMap (reordered.operation method) agree

/-- The operations are the same one by one. -/
theorem operations (reordered : first.Reordered second) :
    List.Forall₂ (fun one other : Method × Operation =>
      one.1 = other.1 ∧ one.2.Reordered other.2) first.operations second.operations := by
  have methods : List.Forall₂ (fun one other : Method => one = other) Method.all Method.all :=
    List.forall₂_same.mpr (fun _ _ => rfl)
  refine List.rel_filterMap ?_ methods
  rintro method _ rfl
  exact rel_optionMap (reordered.operation method) (fun _ _ same => ⟨rfl, same⟩)

end PathItem.Reordered

namespace Document

/-! ## Self-contained paths -/

theorem shareWith_of_reordered {shared others : List (Referable Parameter)}
    (each : ParametersReordered shared others) {first second : Operation}
    (reordered : first.Reordered second) :
    (shareWith shared first).Reordered (shareWith others second) where
  operationId := reordered.operationId
  parameters := .some (List.rel_append each (getD_of_rel reordered.parameters))
  requestBody := reordered.requestBody
  responses := reordered.responses

theorem hoistShared_of_reordered {first second : PathItem} (reordered : first.Reordered second) :
    (hoistShared first).Reordered (hoistShared second) := by
  have shared := reordered.parameters
  unfold hoistShared
  generalize first.parameters = left, second.parameters = right at shared ⊢
  cases shared with
  | none => exact reordered
  | some each =>
      have moved := reordered.mapOperations (fun _ _ same => shareWith_of_reordered each same)
      exact ⟨.none, moved.operation⟩

namespace Reordered

variable {first second : Document}

/-- A parameter reference names alike parameters. -/
theorem parameter? (reordered : first.Reordered second) (target : String) :
    Option.Rel Parameter.Reordered (first.parameter? target) (second.parameter? target) := by
  have components := reordered.components
  unfold Document.parameter?
  split
  · generalize first.components = left, second.components = right at components ⊢
    cases components with
    | none => exact .none
    | some same => exact same.parameters.get? _
  · exact .none

/-- A path item reference names alike entries. -/
theorem pathItemEntry? (reordered : first.Reordered second) (target : String) :
    Option.Rel (Referable.Alike PathItem.Reordered) (first.pathItemEntry? target)
      (second.pathItemEntry? target) := by
  have components := reordered.components
  unfold Document.pathItemEntry?
  split
  · generalize first.components = left, second.components = right at components ⊢
    cases components with
    | none => exact .none
    | some same => exact same.pathItems.get? _
  · exact reordered.paths.get? _

theorem pathItemCount_eq (reordered : first.Reordered second) :
    first.pathItemCount = second.pathItemCount := by
  have components := reordered.components
  unfold Document.pathItemCount
  rw [reordered.paths.size_eq]
  generalize first.components = left, second.components = right at components ⊢
  cases components with
  | none => rfl
  | some same => exact congrArg (second.paths.size + ·) same.pathItems.size_eq

/-- Alike documents spell references alike, so both follow the same references. -/
theorem followPathItem (reordered : first.Reordered second) (visited : List String) (fuel : Nat)
    (target : String) :
    Option.Rel PathItem.Reordered (first.followPathItem visited fuel target)
      (second.followPathItem visited fuel target) := by
  induction fuel generalizing visited target with
  | zero => exact .none
  | succ fuel inductionHypothesis =>
      have found := reordered.pathItemEntry? target
      rw [Document.followPathItem, Document.followPathItem]
      split
      · exact .none
      · generalize first.pathItemEntry? target = left, second.pathItemEntry? target = right
          at found ⊢
        cases found with
        | none => exact .none
        | some alike =>
            cases alike with
            | reference next => exact inductionHypothesis (target :: visited) next
            | inline same => exact .some same

/-- A path item reference reaches alike items. -/
theorem pathItem? (reordered : first.Reordered second) (target : String) :
    Option.Rel PathItem.Reordered (first.pathItem? target) (second.pathItem? target) := by
  unfold Document.pathItem?
  rw [reordered.pathItemCount_eq]
  exact reordered.followPathItem [] _ target

theorem hasParameters_eq (reordered : first.Reordered second) :
    first.hasParameters = second.hasParameters := by
  have components := reordered.components
  unfold Document.hasParameters
  generalize first.components = left, second.components = right at components ⊢
  cases components with
  | none => rfl
  | some same => exact congrArg (! ·) same.parameters.isEmpty_eq

theorem inlineParameter (reordered : first.Reordered second) {one other : Referable Parameter}
    (alike : Referable.Alike Parameter.Reordered one other) :
    Referable.Alike Parameter.Reordered (first.inlineParameter one)
      (second.inlineParameter other) := by
  cases alike with
  | inline same => exact .inline same
  | reference target =>
      have found := reordered.parameter? target
      simp only [Document.inlineParameter]
      generalize first.parameter? target = left, second.parameter? target = right at found ⊢
      cases found with
      | none => exact .reference target
      | some same => exact .inline same

theorem inlineParameters (reordered : first.Reordered second) {one other : Operation}
    (same : one.Reordered other) :
    (first.inlineParameters one).Reordered (second.inlineParameters other) where
  operationId := same.operationId
  parameters := rel_optionMap same.parameters (fun _ _ each =>
    List.rel_map (fun _ _ alike => reordered.inlineParameter alike) each)
  requestBody := same.requestBody
  responses := same.responses

theorem inlineItem (reordered : first.Reordered second) {one other : PathItem}
    (same : one.Reordered other) :
    (first.inlineItem one).Reordered (second.inlineItem other) := by
  unfold Document.inlineItem
  rw [reordered.hasParameters_eq]
  split
  · exact same.mapOperations (fun _ _ operations => reordered.inlineParameters operations)
  · exact same

theorem selfContainedItem? (reordered : first.Reordered second)
    {one other : Referable PathItem} (alike : Referable.Alike PathItem.Reordered one other) :
    Option.Rel PathItem.Reordered (first.selfContainedItem? one)
      (second.selfContainedItem? other) := by
  cases alike with
  | inline same => exact .some (reordered.inlineItem (hoistShared_of_reordered same))
  | reference target =>
      exact rel_optionMap (reordered.pathItem? target)
        (fun _ _ same => reordered.inlineItem (hoistShared_of_reordered same))

/-- Documents that differ in order alone still do when their paths are self-contained. -/
theorem selfContained (reordered : first.Reordered second) :
    first.selfContained.Reordered second.selfContained where
  paths := by
    refine reordered.paths.filterMap ?_
    intro name one other alike
    exact rel_optionMap (reordered.selfContainedItem? alike) (fun _ _ same => .inline same)
  components := reordered.components

end Reordered
end Document

/-! ## The operations of a document -/

structure Endpoint.Reordered (first second : Endpoint) : Prop where
  method : first.method = second.method
  path : first.path = second.path
  operation : first.operation.Reordered second.operation

namespace Document

/-- The operations are the same one by one, once those of one path stay together and paths
may stand in another order. -/
theorem Reordered.endpoints {first second : Document} (reordered : first.Reordered second) :
    Exists fun middle : List Endpoint =>
      List.Forall₂ Endpoint.Reordered first.endpoints middle ∧
        Text.Shuffled Endpoint.path middle second.endpoints := by
  rcases reordered.paths.shuffled with ⟨entries, each, order⟩
  refine ⟨_, List.rel_flatMap each ?_, order.flatMap ?_⟩
  · rintro ⟨path, one⟩ ⟨samePath, other⟩ ⟨rfl, alike⟩
    cases alike with
    | reference target => exact .nil
    | inline same => exact List.rel_map (fun _ _ pair => ⟨pair.1, rfl, pair.2⟩) same.operations
  · rintro ⟨path, entry⟩ endpoint member
    cases entry with
    | reference target => cases member
    | inline item =>
        rcases List.mem_map.mp member with ⟨_, _, rfl⟩
        rfl

end Document
end OpenApiTypes
