import OpenApiTypes.Modules.Descriptor
import OpenApiTypes.Modules.Params
import OpenApiTypes.Proofs.Document.Endpoints
import OpenApiTypes.Proofs.Naming.PathWords
import Mathlib.Data.List.Nodup

namespace OpenApiTypes
namespace Modules

/-!
# Which operation a parameters type belongs to

Every operation with query parameters gets a parameters type of its own, and a
descriptor refers to that type by name.  The name keeps the method and the capitalized
words of the path, so two paths that differ only in what stands between their words, as
`/a-b` and `/a/b` do, give one name to two types.  The main statement here says that
nothing else goes wrong: names are distinct, and references unambiguous, exactly as far
as no two paths of one method have their capitalized words in common.
-/

/-! ## The parameters types of a document -/

/-- The parameters type of an operation, whether or not it is declared. -/
def ownAlias (endpoint : Endpoint) : ParamsAlias :=
  ⟨Naming.paramsTypeName endpoint.method.name endpoint.path,
    Text.sortOn QueryMember.key ((endpoint.operation.parametersAt .query).map queryMember)⟩

/-- A parameters type has one member for each query parameter. -/
theorem entries_ownAlias_perm (endpoint : Endpoint) :
    (ownAlias endpoint).entries.Perm
      ((endpoint.operation.parametersAt .query).map queryMember) :=
  Text.sortOn_perm _ _

/-- A parameters type is declared when there is a query parameter. -/
theorem paramsAlias?_eq (endpoint : Endpoint) :
    paramsAlias? endpoint = if endpoint.hasQuery then some (ownAlias endpoint) else none := by
  unfold paramsAlias? Endpoint.hasQuery ownAlias
  cases endpoint.operation.parametersAt .query <;> rfl

/-- The declared parameters types are those of the operations with query parameters. -/
theorem paramsAliases_perm (document : Document) :
    (paramsAliases document).Perm
      ((document.endpoints.filter Endpoint.hasQuery).map ownAlias) := by
  have declared : document.endpoints.filterMap paramsAlias? =
      (document.endpoints.filter Endpoint.hasQuery).map ownAlias := by
    induction document.endpoints with
    | nil => rfl
    | cons endpoint rest inductionHypothesis =>
        rw [List.filterMap_cons, List.filter_cons, paramsAlias?_eq, inductionHypothesis]
        cases endpoint.hasQuery <;> rfl
  rw [← declared]
  exact Text.sortOn_perm _ _

/-- A descriptor of an operation with query parameters refers to the parameters type of
that operation by name. -/
theorem paramsType_descriptor_of_hasQuery (settings : Settings) (siblings : Siblings)
    {endpoint : Endpoint} (query : endpoint.hasQuery) :
    (descriptor settings siblings endpoint).paramsType =
      settings.aliases.params ++ "." ++ (ownAlias endpoint).name := by
  have nonempty : (endpoint.operation.parametersAt .query).isEmpty = false := by
    simpa [Endpoint.hasQuery] using query
  simp [descriptor, nonempty, paramsTypeReference, ownAlias]

/-! ## Operations that share a name -/

/-- Two operations whose parameters types have one name: the methods agree, and the
capitalized words of the paths make the same row. -/
def SameTypeName (first second : Endpoint) : Prop :=
  first.method = second.method ∧
    Naming.capitalWords first.path = Naming.capitalWords second.path

theorem name_ownAlias_eq_iff (first second : Endpoint) :
    (ownAlias first).name = (ownAlias second).name ↔ SameTypeName first second :=
  Naming.paramsTypeName_eq_iff first.method second.method first.path second.path

/-- In a list without repetitions, a test selects one element alone exactly when that
element passes and no other element does. -/
private theorem filter_eq_singleton_iff {Item : Type} {items : List Item}
    (distinct : items.Nodup) {chosen : Item} (member : chosen ∈ items)
    (test : Item -> Bool) (passes : test chosen) :
    items.filter test = [chosen] ↔ ∀ other ∈ items, test other -> other = chosen := by
  constructor
  · intro alone other otherMember otherPasses
    have kept : other ∈ items.filter test := List.mem_filter.mpr ⟨otherMember, otherPasses⟩
    rw [alone] at kept
    exact List.mem_singleton.mp kept
  · intro only
    apply List.perm_singleton.mp
    rw [List.perm_ext_iff_of_nodup (distinct.filter test) (List.nodup_singleton chosen)]
    intro other
    rw [List.mem_filter, List.mem_singleton]
    constructor
    · rintro ⟨otherMember, otherPasses⟩
      exact only other otherMember otherPasses
    · rintro rfl
      exact ⟨member, passes⟩

/-- The names of parameters types are distinct exactly when no two operations with query
parameters share one. -/
theorem nodup_names_iff (document : Document) :
    ((paramsAliases document).map ParamsAlias.name).Nodup ↔
      ∀ first ∈ document.endpoints, ∀ second ∈ document.endpoints,
        first.hasQuery -> second.hasQuery -> SameTypeName first second ->
          first.path = second.path := by
  rw [((paramsAliases_perm document).map ParamsAlias.name).nodup_iff, List.map_map,
    List.nodup_map_iff_inj_on (document.nodup_endpoints.filter _)]
  simp only [List.mem_filter, Function.comp_apply, name_ownAlias_eq_iff]
  constructor
  · intro injective first firstMember second secondMember firstQuery secondQuery same
    rw [injective first ⟨firstMember, firstQuery⟩ second ⟨secondMember, secondQuery⟩ same]
  · intro separate first firstKept second secondKept same
    have samePath := separate first firstKept.1 second secondKept.1 firstKept.2 secondKept.2 same
    exact document.endpoint_unique firstKept.1 secondKept.1 samePath same.1

/-- A name stands for the parameters type of one operation alone exactly when no other
operation with query parameters shares it. -/
theorem aliases_of_name_eq_iff (document : Document) {endpoint : Endpoint}
    (member : endpoint ∈ document.endpoints) (query : endpoint.hasQuery) :
    (paramsAliases document).filter (fun declared => declared.name == (ownAlias endpoint).name) =
        [ownAlias endpoint] ↔
      ∀ other ∈ document.endpoints, other.hasQuery -> SameTypeName other endpoint ->
        other.path = endpoint.path := by
  have kept : endpoint ∈ document.endpoints.filter Endpoint.hasQuery :=
    List.mem_filter.mpr ⟨member, query⟩
  have passes : ((fun declared => declared.name == (ownAlias endpoint).name) ∘ ownAlias)
      endpoint = true := by
    simp
  have selected := ((paramsAliases_perm document).filter
    (fun declared => declared.name == (ownAlias endpoint).name))
  rw [List.filter_map] at selected
  have single : (paramsAliases document).filter
      (fun declared => declared.name == (ownAlias endpoint).name) = [ownAlias endpoint] ↔
      ((document.endpoints.filter Endpoint.hasQuery).filter
        ((fun declared => declared.name == (ownAlias endpoint).name) ∘ ownAlias)) =
          [endpoint] := by
    rw [← List.perm_singleton, selected.congr_left, List.perm_singleton,
      List.map_eq_singleton_iff]
    constructor
    · rintro ⟨only, alone, _⟩
      have present : endpoint ∈ [only] :=
        alone ▸ List.mem_filter.mpr ⟨kept, passes⟩
      rw [alone, List.mem_singleton.mp present]
    · intro alone
      exact ⟨endpoint, alone, rfl⟩
  rw [single, filter_eq_singleton_iff (document.nodup_endpoints.filter _) kept _ passes]
  simp only [List.mem_filter, Function.comp_apply, beq_iff_eq, name_ownAlias_eq_iff]
  constructor
  · intro only other otherMember otherQuery same
    rw [only other ⟨otherMember, otherQuery⟩ same]
  · intro separate other otherKept same
    have samePath := separate other otherKept.1 otherKept.2 same
    exact document.endpoint_unique otherKept.1 member samePath same.1

/-- The parameters types of a document can be told apart by name exactly when no two
operations with query parameters share a name, that is, have one method and paths with
the same capitalized words in a row.  A descriptor refers to the type of its operation,
which has one member for each query parameter; the reference means that type alone
exactly when no other operation with query parameters shares the name. -/
theorem paramsTypes_unambiguous_iff (settings : Settings) (siblings : Siblings)
    (document : Document) :
    (((paramsAliases document).map ParamsAlias.name).Nodup ↔
      ∀ first ∈ document.endpoints, ∀ second ∈ document.endpoints,
        first.hasQuery -> second.hasQuery -> SameTypeName first second ->
          first.path = second.path) ∧
    ∀ endpoint ∈ document.endpoints, endpoint.hasQuery ->
      (descriptor settings siblings endpoint).paramsType =
          settings.aliases.params ++ "." ++ (ownAlias endpoint).name ∧
        (ownAlias endpoint).entries.Perm
          ((endpoint.operation.parametersAt .query).map queryMember) ∧
        ((paramsAliases document).filter
            (fun declared => declared.name == (ownAlias endpoint).name) = [ownAlias endpoint] ↔
          ∀ other ∈ document.endpoints, other.hasQuery -> SameTypeName other endpoint ->
            other.path = endpoint.path) := by
  refine ⟨nodup_names_iff document, ?_⟩
  intro endpoint member query
  exact ⟨paramsType_descriptor_of_hasQuery settings siblings query,
    entries_ownAlias_perm endpoint, aliases_of_name_eq_iff document member query⟩

/-- Two paths with the same words: one has a dash where the other one has a slash. -/
def dashedAndNested : Document :=
  let reading (parameter : String) : Operation :=
    ⟨none, some [.inline ⟨parameter, .query, true, none⟩], none, .empty⟩
  ⟨⟨[("/a-b", .inline { get := some (reading "x") }),
      ("/a/b", .inline { get := some (reading "y") })], by decide⟩, none⟩

/-- The parameters types of both paths are called `GetABParams`. -/
theorem names_dashedAndNested_not_nodup :
    ¬ ((paramsAliases dashedAndNested).map ParamsAlias.name).Nodup := by
  rw [((paramsAliases_perm dashedAndNested).map ParamsAlias.name).nodup_iff]
  decide

end Modules
end OpenApiTypes
