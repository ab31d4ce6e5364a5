import OpenApiTypes.Proofs.Registry.Lookup
import OpenApiTypes.Proofs.Text.Order
import OpenApiTypes.Document.Basic

namespace OpenApiTypes

/-!
# The operations of a document

A path has at most one entry and a path item at most one operation for each method, so
the path and the method of an operation identify it.  The list of operations neither
repeats one nor leaves one out.  Sorted by path it is in strictly ascending order, first of
the paths and then of the methods.
-/

/-! ## Operations of a path item -/

/-- The place of a method in the order in which the operations of a path are visited. -/
def Method.place (method : Method) : Nat :=
  Method.all.idxOf method

/-- Every method stands behind those that are visited before it. -/
theorem Method.pairwise_all :
    Method.all.Pairwise (fun first second => first.place < second.place) := by
  decide

/-- The listed operations of a path item are those of its methods. -/
theorem PathItem.mem_operations_iff (item : PathItem) (method : Method) (operation : Operation) :
    (method, operation) ∈ item.operations ↔ item.operation? method = some operation := by
  simp only [PathItem.operations, List.mem_filterMap, Option.map_eq_some_iff, Prod.mk.injEq]
  constructor
  · rintro ⟨_, _, _, found, rfl, rfl⟩
    exact found
  · intro found
    exact ⟨method, method.mem_all, operation, found, rfl, rfl⟩

/-- The operations of a path item are listed in the order of the methods. -/
theorem PathItem.pairwise_operations (item : PathItem) :
    item.operations.Pairwise (fun first second => first.1.place < second.1.place) := by
  rw [PathItem.operations, List.pairwise_filterMap]
  refine Method.pairwise_all.imp ?_
  intro first second order firstDeclared firstFound secondDeclared secondFound
  rcases Option.map_eq_some_iff.mp firstFound with ⟨_, _, rfl⟩
  rcases Option.map_eq_some_iff.mp secondFound with ⟨_, _, rfl⟩
  exact order

/-- Whether an operation has a query parameter. -/
def Endpoint.hasQuery (endpoint : Endpoint) : Bool :=
  !(endpoint.operation.parametersAt .query).isEmpty

/-- An operation stands before another one: its path does, or the paths are the same and
its method does. -/
def Endpoint.Before (first second : Endpoint) : Prop :=
  first.path < second.path ∨
    first.path = second.path ∧ first.method.place < second.method.place

namespace Document

/-! ## Operations of a document -/

/-- The operations of a document are those of the path items that stand in place. -/
theorem mem_endpoints_iff (document : Document) (endpoint : Endpoint) :
    endpoint ∈ document.endpoints ↔
      Exists fun item : PathItem =>
        (endpoint.path, .inline item) ∈ document.paths.entries ∧
          item.operation? endpoint.method = some endpoint.operation := by
  rw [endpoints, List.mem_flatMap]
  constructor
  · rintro ⟨⟨path, entry⟩, member, listed⟩
    cases entry with
    | reference target => cases listed
    | inline item =>
        rcases List.mem_map.mp listed with ⟨⟨method, operation⟩, declared, rfl⟩
        exact ⟨item, member, (item.mem_operations_iff method operation).mp declared⟩
  · rintro ⟨item, member, found⟩
    refine ⟨_, member, List.mem_map.mpr ⟨(endpoint.method, endpoint.operation), ?_, rfl⟩⟩
    exact (item.mem_operations_iff _ _).mpr found

/-- The path and the method identify an operation. -/
theorem endpoint_unique (document : Document) {first second : Endpoint}
    (firstMember : first ∈ document.endpoints) (secondMember : second ∈ document.endpoints)
    (samePath : first.path = second.path) (sameMethod : first.method = second.method) :
    first = second := by
  rcases (document.mem_endpoints_iff first).mp firstMember with ⟨firstItem, firstEntry, firstFound⟩
  rcases (document.mem_endpoints_iff second).mp secondMember with
      ⟨secondItem, secondEntry, secondFound⟩
  rw [samePath] at firstEntry
  have sameItem := Referable.inline.inj (document.paths.value_unique firstEntry secondEntry)
  rw [sameItem, sameMethod] at firstFound
  have sameOperation := Option.some.inj (firstFound.symm.trans secondFound)
  cases first
  cases second
  cases samePath
  cases sameMethod
  cases sameOperation
  rfl

/-- The operations of one path are listed in the order of the methods. -/
theorem pairwise_endpoints (document : Document) :
    document.endpoints.Pairwise (fun first second =>
      first.path = second.path -> first.method.place < second.method.place) := by
  rw [endpoints, List.pairwise_flatMap]
  constructor
  · rintro ⟨path, entry⟩ _
    cases entry with
    | reference target => exact List.Pairwise.nil
    | inline item =>
        refine List.pairwise_map.mpr (item.pairwise_operations.imp ?_)
        intro first second order _
        exact order
  · have paths := document.paths.distinct
    rw [List.nodup_iff_pairwise_ne, List.pairwise_map] at paths
    refine paths.imp ?_
    rintro ⟨firstPath, firstEntry⟩ ⟨secondPath, secondEntry⟩ different first firstListed second
      secondListed same
    cases firstEntry with
    | reference target => cases firstListed
    | inline firstItem =>
        cases secondEntry with
        | reference target => cases secondListed
        | inline secondItem =>
            rcases List.mem_map.mp firstListed with ⟨_, _, rfl⟩
            rcases List.mem_map.mp secondListed with ⟨_, _, rfl⟩
            exact absurd same different

/-- No operation is listed twice. -/
theorem nodup_endpoints (document : Document) : document.endpoints.Nodup := by
  refine document.pairwise_endpoints.imp ?_
  rintro first _ order rfl
  exact Nat.lt_irrefl _ (order rfl)

/-- Ordering the operations by path keeps them. -/
theorem mem_sortedEndpoints_iff (document : Document) (endpoint : Endpoint) :
    endpoint ∈ document.sortedEndpoints ↔ endpoint ∈ document.endpoints :=
  (Text.sortOn_perm Endpoint.path document.endpoints).mem_iff

/-- The sorted operations are in strictly ascending order. -/
theorem pairwise_sortedEndpoints (document : Document) :
    document.sortedEndpoints.Pairwise Endpoint.Before :=
  Text.pairwise_sortOn_of_ties document.pairwise_endpoints

end Document
end OpenApiTypes
