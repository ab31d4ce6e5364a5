import OpenApiTypes.Document.SelfContained
import OpenApiTypes.Proofs.Document.Endpoints
import OpenApiTypes.Proofs.Document.PointerSegments
import OpenApiTypes.Proofs.Document.ReferenceChain

namespace OpenApiTypes
namespace Document

/-!
# What self-contained paths hold

Making paths self-contained follows path item references, moves shared parameters and
replaces parameter references.  The predicates here say what the outcome is without
those steps: which paths are kept, and, for each operation, which list of parameters it
ends up with.  The main statement is that the steps bring exactly this outcome about.
-/

/-! ## Parameters -/

/-- What becomes of a listed parameter: a reference to a component parameter becomes its
definition, and anything else stays as it is. -/
inductive Inlined (document : Document) : Referable Parameter -> Referable Parameter -> Prop
  | found {target : String} {parameter : Parameter}
      (declared : document.NamesParameter target parameter) :
      Inlined document (.reference target) (.inline parameter)
  | dangling {target : String}
      (missing : forall parameter : Parameter, ¬ document.NamesParameter target parameter) :
      Inlined document (.reference target) (.reference target)
  | inline (parameter : Parameter) : Inlined document (.inline parameter) (.inline parameter)

theorem inlined_inlineParameter (document : Document) (listed : Referable Parameter) :
    document.Inlined listed (document.inlineParameter listed) := by
  cases listed with
  | inline parameter => exact .inline parameter
  | reference target =>
      cases declared : document.parameter? target with
      | none =>
          simp only [inlineParameter, declared]
          exact .dangling ((document.parameter?_eq_none_iff target).mp declared)
      | some parameter =>
          simp only [inlineParameter, declared]
          exact .found ((document.parameter?_eq_some_iff target parameter).mp declared)

theorem Inlined.dangling_of_reference {document : Document} {listed : Referable Parameter}
    {target : String} (inlined : document.Inlined listed (.reference target)) :
    forall parameter : Parameter, ¬ document.NamesParameter target parameter := by
  cases inlined with
  | dangling missing => exact missing

theorem parameter?_of_hasParameters_eq_false {document : Document}
    (without : document.hasParameters = false) (target : String) :
    document.parameter? target = none := by
  unfold parameter?
  split
  · unfold hasParameters at without
    cases declared : document.components with
    | none => rfl
    | some components =>
        rw [declared] at without
        have empty : components.parameters.entries = [] := by
          simpa [Registry.isEmpty] using without
        rw [Option.bind_some, Registry.get?, empty]
        rfl
  · rfl

theorem inlineParameters_of_hasParameters_eq_false {document : Document}
    (without : document.hasParameters = false) (operation : Operation) :
    document.inlineParameters operation = operation := by
  have kept (listed : Referable Parameter) : document.inlineParameter listed = listed := by
    cases listed with
    | inline parameter => rfl
    | reference target =>
        rw [inlineParameter, parameter?_of_hasParameters_eq_false without target]
  have same : document.inlineParameter = id := funext kept
  cases operation with
  | mk operationId parameters requestBody responses =>
      rw [inlineParameters, same, List.map_id_fun, Option.map_id_fun]
      rfl

/-- Looking for component parameters first saves work and changes nothing. -/
theorem inlineItem_eq (document : Document) (item : PathItem) :
    document.inlineItem item = item.mapOperations document.inlineParameters := by
  unfold inlineItem
  cases present : document.hasParameters with
  | true => rfl
  | false =>
      have same : document.inlineParameters = id :=
        funext (inlineParameters_of_hasParameters_eq_false present)
      rw [same]
      simp [PathItem.mapOperations]

/-- The parameters that an operation ends up with: those that the path item shares and
then its own ones, each replaced in its place.  There is no list when there were none. -/
inductive Listed (document : Document) :
    Option (List (Referable Parameter)) -> Option (List (Referable Parameter)) ->
      Option (List (Referable Parameter)) -> Prop
  | absent : Listed document none none none
  | listed {shared own : Option (List (Referable Parameter))}
      {parameters : List (Referable Parameter)}
      (present : shared.isSome ∨ own.isSome)
      (inlined : List.Forall₂ document.Inlined (shared.getD [] ++ own.getD []) parameters) :
      Listed document shared own (some parameters)

/-- The parameters of an operation whose path item shares some. -/
def listedParameters (document : Document) :
    Option (List (Referable Parameter)) -> Option (List (Referable Parameter)) ->
      Option (List (Referable Parameter))
  | none, own => own.map (List.map document.inlineParameter)
  | some shared, own => some ((shared ++ own.getD []).map document.inlineParameter)

theorem getD_listedParameters (document : Document)
    (shared own : Option (List (Referable Parameter))) :
    (document.listedParameters shared own).getD [] =
      (shared.getD [] ++ own.getD []).map document.inlineParameter := by
  cases shared with
  | none => cases own <;> rfl
  | some shared => rfl

/-- A reference that is left among the parameters of an operation names nothing. -/
theorem dangling_of_mem_listedParameters {document : Document}
    {shared own : Option (List (Referable Parameter))} {target : String}
    (left : .reference target ∈ (document.listedParameters shared own).getD []) :
    forall parameter : Parameter, ¬ document.NamesParameter target parameter := by
  rw [getD_listedParameters] at left
  rcases List.mem_map.mp left with ⟨listed, _, same⟩
  exact (same ▸ document.inlined_inlineParameter listed).dangling_of_reference

theorem listed_listedParameters (document : Document)
    (shared own : Option (List (Referable Parameter))) :
    document.Listed shared own (document.listedParameters shared own) := by
  have replaced (parameters : List (Referable Parameter)) :
      List.Forall₂ document.Inlined parameters (parameters.map document.inlineParameter) := by
    rw [List.forall₂_map_right_iff]
    exact List.forall₂_same.mpr (fun parameter _ => document.inlined_inlineParameter parameter)
  cases shared with
  | none =>
      cases own with
      | none => exact .absent
      | some own => exact .listed (Or.inr rfl) (replaced own)
  | some shared => exact .listed (Or.inl rfl) (replaced _)

/-! ## Path items -/

/-- The self-contained form of a path item. -/
def selfContainedForm (document : Document) (item : PathItem) : PathItem :=
  document.inlineItem (hoistShared item)

theorem parameters_selfContainedForm (document : Document) (item : PathItem) :
    (document.selfContainedForm item).parameters = none := by
  rw [selfContainedForm, inlineItem_eq, PathItem.parameters_mapOperations, hoistShared]
  cases shared : item.parameters with
  | none => exact shared
  | some parameters => rfl

/-- An operation of a self-contained path item is that of the path item except for its
parameters. -/
theorem operation?_selfContainedForm (document : Document) (item : PathItem) (method : Method) :
    (document.selfContainedForm item).operation? method =
      (item.operation? method).map (fun operation =>
        { operation with
          parameters := document.listedParameters item.parameters operation.parameters }) := by
  rw [selfContainedForm, inlineItem_eq, PathItem.operation?_mapOperations, hoistShared]
  cases shared : item.parameters with
  | none => rfl
  | some parameters =>
      have hoisted (operations : PathItem) :
          ({ operations with parameters := none } : PathItem).operation? method =
            operations.operation? method := by
        cases method <;> rfl
      simp only [hoisted, PathItem.operation?_mapOperations, Option.map_map]
      rfl

/-- A reference that is left among the parameters of a self-contained path item names
nothing. -/
theorem dangling_of_selfContainedForm {document : Document} {item : PathItem} {method : Method}
    {operation : Operation} {target : String}
    (declared : (document.selfContainedForm item).operation? method = some operation)
    (left : .reference target ∈ operation.parameters.getD []) :
    forall parameter : Parameter, ¬ document.NamesParameter target parameter := by
  rw [operation?_selfContainedForm, Option.map_eq_some_iff] at declared
  rcases declared with ⟨original, _, rfl⟩
  exact dangling_of_mem_listedParameters left

/-- How a self-contained path item comes from a path item. -/
structure SelfContainedItem (document : Document) (item made : PathItem) : Prop where
  /-- No parameters are shared any more. -/
  parameters : made.parameters = none
  /-- No method gains an operation. -/
  undeclared : forall method : Method,
    item.operation? method = none -> made.operation? method = none
  /-- No method loses its operation, of which only the parameters change. -/
  declared : forall (method : Method) (operation : Operation),
    item.operation? method = some operation ->
      Exists fun parameters : Option (List (Referable Parameter)) =>
        document.Listed item.parameters operation.parameters parameters ∧
          made.operation? method = some { operation with parameters := parameters }

theorem selfContainedItem_selfContainedForm (document : Document) (item : PathItem) :
    document.SelfContainedItem item (document.selfContainedForm item) where
  parameters := document.parameters_selfContainedForm item
  undeclared := by
    intro method missing
    rw [operation?_selfContainedForm, missing, Option.map_none]
  declared := by
    intro method operation found
    refine ⟨_, document.listed_listedParameters item.parameters operation.parameters, ?_⟩
    rw [operation?_selfContainedForm, found, Option.map_some]

/-! ## Paths -/

/-- The self-contained path item of an entry is the form of what the entry reaches. -/
theorem selfContainedItem?_eq_some_iff (document : Document) (entry : Referable PathItem)
    (made : PathItem) :
    document.selfContainedItem? entry = some made ↔
      Exists fun item : PathItem =>
        document.Reaches entry item ∧ document.selfContainedForm item = made := by
  cases entry with
  | inline item =>
      constructor
      · intro same
        exact ⟨item, .inline item, Option.some.inj same⟩
      · rintro ⟨_, _ | _, same⟩
        exact congrArg some same
  | reference target =>
      simp only [selfContainedItem?, Option.map_eq_some_iff, pathItem?_eq_some_iff]
      rfl

/-- What stands under a path of the self-contained document. -/
theorem get?_paths_selfContained (document : Document) (path : String) :
    document.selfContained.paths.get? path =
      (document.paths.get? path).bind (fun entry =>
        (document.selfContainedItem? entry).map .inline) :=
  Registry.get?_filterMap _ document.paths path

/-- A path of the self-contained document has the form of what its entry reaches. -/
theorem get?_paths_selfContained_eq_some_iff (document : Document) (path : String)
    (kept : Referable PathItem) :
    document.selfContained.paths.get? path = some kept ↔
      Exists fun entry : Referable PathItem => Exists fun item : PathItem =>
        document.paths.get? path = some entry ∧ document.Reaches entry item ∧
          kept = .inline (document.selfContainedForm item) := by
  simp only [get?_paths_selfContained, Option.bind_eq_some_iff, Option.map_eq_some_iff,
    selfContainedItem?_eq_some_iff]
  constructor
  · rintro ⟨entry, found, _, ⟨item, chain, rfl⟩, rfl⟩
    exact ⟨entry, item, found, chain, rfl⟩
  · rintro ⟨entry, item, found, chain, rfl⟩
    exact ⟨entry, found, _, ⟨item, chain, rfl⟩, rfl⟩

/-- Entries that reach the same items have the same self-contained path item. -/
theorem selfContainedItem?_congr {document : Document} {first second : Referable PathItem}
    (same : forall item : PathItem, document.Reaches first item ↔ document.Reaches second item) :
    document.selfContainedItem? first = document.selfContainedItem? second := by
  apply Option.ext
  intro made
  simp only [selfContainedItem?_eq_some_iff, same]

/-- How a self-contained document comes from a document. -/
structure SelfContainedDocument (document made : Document) : Prop where
  /-- The components stay. -/
  components : made.components = document.components
  /-- Paths keep their order, and none is repeated. -/
  order : made.paths.names.Sublist document.paths.names
  /-- The paths that are kept are those that reach a path item. -/
  kept : forall path : String,
    path ∈ made.paths.names ↔
      Exists fun entry : Referable PathItem => Exists fun item : PathItem =>
        document.paths.get? path = some entry ∧ document.Reaches entry item
  /-- A path that reaches a path item holds its self-contained form in place. -/
  item : forall (path : String) (entry : Referable PathItem) (item : PathItem),
    document.paths.get? path = some entry -> document.Reaches entry item ->
      Exists fun form : PathItem => made.paths.get? path = some (.inline form) ∧
        document.SelfContainedItem item form
  /-- A path whose references lead to another path holds what that path holds. -/
  shared : forall copy target path : String,
    document.paths.get? copy = some (.reference target) -> document.LeadsTo target path ->
      made.paths.get? copy = made.paths.get? path
  /-- The parameter references that are left name nothing. -/
  dangling : forall (path : String) (form : PathItem) (method : Method) (operation : Operation)
      (target : String),
    made.paths.get? path = some (.inline form) -> form.operation? method = some operation ->
      .reference target ∈ operation.parameters.getD [] ->
        forall parameter : Parameter, ¬ made.NamesParameter target parameter

/-- Making paths self-contained loses, invents, repeats and reorders nothing. -/
theorem selfContained_spec (document : Document) :
    document.SelfContainedDocument document.selfContained where
  components := rfl
  order := Registry.names_filterMap_sublist _ document.paths
  kept := by
    intro path
    simp only [Registry.mem_names_iff, get?_paths_selfContained_eq_some_iff]
    constructor
    · rintro ⟨_, entry, item, found, chain, _⟩
      exact ⟨entry, item, found, chain⟩
    · rintro ⟨entry, item, found, chain⟩
      exact ⟨_, entry, item, found, chain, rfl⟩
  item := by
    intro path entry item found chain
    refine ⟨document.selfContainedForm item, ?_, document.selfContainedItem_selfContainedForm item⟩
    exact (document.get?_paths_selfContained_eq_some_iff path _).mpr
      ⟨entry, item, found, chain, rfl⟩
  shared := by
    intro copy target path found leads
    rcases leads.reaches_iff with ⟨entry, declared, same⟩
    rw [get?_paths_selfContained, get?_paths_selfContained, found, declared, Option.bind_some,
      Option.bind_some, selfContainedItem?_congr same]
  dangling := by
    intro path form method operation target found declared left
    rcases (document.get?_paths_selfContained_eq_some_iff path _).mp found with
        ⟨_, item, _, _, same⟩
    cases Referable.inline.inj same
    exact dangling_of_selfContainedForm declared left

end Document
end OpenApiTypes
