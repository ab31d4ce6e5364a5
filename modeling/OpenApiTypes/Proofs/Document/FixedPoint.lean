import OpenApiTypes.Proofs.Document.SelfContained

namespace OpenApiTypes
namespace Document

/-!
# Documents that are self-contained already

A second pass over a document sees other paths than the first one: references are gone,
shared parameters have moved into the operations, and some parameter references are
definitions.  It sees the same components, though, so a parameter reference that named
nothing names nothing again.

The predicates here say what a self-contained document looks like, without saying how it
was made.  The documents of this form are the ones that a pass leaves as they are, and
every pass ends in one of them.
-/

/-! ## Path items -/

/-- A path item is determined by its shared parameters and the operations of its methods. -/
theorem pathItem_ext {first second : PathItem} (parameters : first.parameters = second.parameters)
    (operations : forall method : Method, first.operation? method = second.operation? method) :
    first = second := by
  have delete := operations .delete
  have get := operations .get
  have head := operations .head
  have options := operations .options
  have patch := operations .patch
  have post := operations .post
  have put := operations .put
  have trace := operations .trace
  cases first
  cases second
  simp_all [PathItem.operation?]

/-- A path item shows the parameters of its operations: none are shared, and the
parameter references that are listed name nothing. -/
structure ShowsParameters (document : Document) (item : PathItem) : Prop where
  unshared : item.parameters = none
  dangling : forall (method : Method) (operation : Operation) (target : String),
    item.operation? method = some operation ->
      .reference target ∈ operation.parameters.getD [] ->
        forall parameter : Parameter, ¬ document.NamesParameter target parameter

/-- What a pass makes of a path item shows the parameters. -/
theorem showsParameters_selfContainedForm (document : Document) (item : PathItem) :
    document.ShowsParameters (document.selfContainedForm item) where
  unshared := document.parameters_selfContainedForm item
  dangling _ _ _ declared left := dangling_of_selfContainedForm declared left

/-- Without shared parameters, a list in which every reference names nothing stays. -/
private theorem listedParameters_none_of_dangling {document : Document}
    {own : Option (List (Referable Parameter))}
    (dangling : forall target : String, .reference target ∈ own.getD [] ->
      forall parameter : Parameter, ¬ document.NamesParameter target parameter) :
    document.listedParameters none own = own := by
  cases own with
  | none => rfl
  | some parameters =>
      have kept : ∀ listed ∈ parameters, document.inlineParameter listed = listed := by
        intro listed member
        cases listed with
        | inline parameter => rfl
        | reference target =>
            have missing := (document.parameter?_eq_none_iff target).mpr (dangling target member)
            rw [inlineParameter, missing]
      exact congrArg some ((List.map_congr_left kept).trans (List.map_id' parameters))

/-- The path items that a pass leaves as they are show the parameters. -/
theorem selfContainedForm_eq_self_iff (document : Document) (item : PathItem) :
    document.selfContainedForm item = item ↔ document.ShowsParameters item := by
  constructor
  · intro same
    rw [← same]
    exact document.showsParameters_selfContainedForm item
  · intro shows
    apply pathItem_ext
    · rw [parameters_selfContainedForm, shows.unshared]
    · intro method
      rw [operation?_selfContainedForm, shows.unshared]
      cases declared : item.operation? method with
      | none => rfl
      | some operation =>
          rw [Option.map_some, listedParameters_none_of_dangling]
          intro target listed
          exact shows.dangling method operation target declared listed

/-! ## Documents -/

/-- Every path holds a path item in place, and the item shows the parameters. -/
def IsSelfContained (document : Document) : Prop :=
  ∀ entry ∈ document.paths.entries, Exists fun item : PathItem =>
    entry.2 = .inline item ∧ document.ShowsParameters item

/-- The components decide what parameter references name, and a pass keeps them. -/
theorem showsParameters_selfContained_iff (document : Document) (item : PathItem) :
    document.selfContained.ShowsParameters item ↔ document.ShowsParameters item := by
  constructor
  · intro shows
    exact ⟨shows.unshared, shows.dangling⟩
  · intro shows
    exact ⟨shows.unshared, shows.dangling⟩

/-- A pass makes a document self-contained. -/
theorem isSelfContained_selfContained (document : Document) :
    document.selfContained.IsSelfContained := by
  rintro ⟨path, entry⟩ member
  have found := (document.selfContained.paths.get?_eq_some_iff path entry).mpr member
  rcases (document.get?_paths_selfContained_eq_some_iff path entry).mp found with
      ⟨_, item, _, _, rfl⟩
  refine ⟨document.selfContainedForm item, rfl, ?_⟩
  rw [showsParameters_selfContained_iff]
  exact document.showsParameters_selfContainedForm item

/-- A pass leaves a self-contained document as it is. -/
theorem selfContained_eq_self {document : Document} (ready : document.IsSelfContained) :
    document.selfContained = document := by
  have kept : ∀ entry ∈ document.paths.entries,
      ((document.selfContainedItem? entry.2).map Referable.inline).map
          (fun value => (entry.1, value)) = some entry := by
    rintro ⟨path, entry⟩ member
    rcases ready _ member with ⟨item, rfl, shows⟩
    have same := (document.selfContainedForm_eq_self_iff item).mpr shows
    have form : document.selfContainedItem? (.inline item) =
        some (document.selfContainedForm item) := rfl
    rw [form, same]
    rfl
  have paths : document.selfContained.paths = document.paths := by
    apply Registry.ext
    change document.paths.entries.filterMap _ = document.paths.entries
    rw [List.filterMap_congr kept, List.filterMap_some]
  cases document with
  | mk declared components => exact congrArg (Document.mk · components) paths

/-- Making a document self-contained a second time changes nothing, and a first time
nothing exactly when the document is self-contained already. -/
theorem selfContained_idempotent (document : Document) :
    document.selfContained.selfContained = document.selfContained ∧
      (document.selfContained = document ↔ document.IsSelfContained) := by
  refine ⟨selfContained_eq_self document.isSelfContained_selfContained, ?_, selfContained_eq_self⟩
  intro same
  rw [← same]
  exact document.isSelfContained_selfContained

end Document
end OpenApiTypes
