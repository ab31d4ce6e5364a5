import OpenApiTypes.Document.SelfContained
import OpenApiTypes.Proofs.Modules.WrittenTypes
import OpenApiTypes.Proofs.Naming.ParameterKeys
import OpenApiTypes.Proofs.Text.Order

namespace OpenApiTypes
namespace Modules

/-!
# The members of a parameters type

A parameters type has one member for each query parameter of its operation.  The key of a
member comes from the name of the parameter alone, and of a name that begins with a small
letter only the leading letters are kept.  So parameters of different names can get one
key between them, as `filter[a]` and `filter[b]` do.  The main statement here says that
this is the only way in which different names meet.
-/

/-- The members stand in ascending order of their keys. -/
theorem pairwise_entries_ownAlias (endpoint : Endpoint) :
    (ownAlias endpoint).entries.Pairwise (fun first second => first.key ≤ second.key) :=
  Text.pairwise_sortOn QueryMember.key _

/-- The members of two parameters have one key exactly when the parameters have one name,
or names that begin with the same letters. -/
theorem key_queryMember_eq_iff (first second : Parameter) :
    (queryMember first).key = (queryMember second).key ↔
      first.name = second.name ∨ Naming.SharesLetters first.name second.name :=
  Naming.parameterKey_eq_iff first.name second.name

/-- Where no name is declared twice, the keys are distinct exactly when no two names begin
with the same letters. -/
theorem nodup_keys_ownAlias_iff {endpoint : Endpoint}
    (different : ((endpoint.operation.parametersAt .query).map Parameter.name).Nodup) :
    ((ownAlias endpoint).entries.map QueryMember.key).Nodup ↔
      ∀ first ∈ endpoint.operation.parametersAt .query,
        ∀ second ∈ endpoint.operation.parametersAt .query,
          Naming.SharesLetters first.name second.name -> first.name = second.name := by
  rw [((entries_ownAlias_perm endpoint).map QueryMember.key).nodup_iff, List.map_map,
    List.nodup_map_iff_inj_on different.of_map]
  constructor
  · intro injective first firstMember second secondMember shares
    have sameKey := (key_queryMember_eq_iff first second).mpr (Or.inr shares)
    rw [injective first firstMember second secondMember sameKey]
  · intro separate first firstMember second secondMember sameKey
    have sameName : first.name = second.name := by
      rcases (key_queryMember_eq_iff first second).mp sameKey with same | shares
      · exact same
      · exact separate first firstMember second secondMember shares
    exact List.inj_on_of_nodup_map different firstMember secondMember sameName

/-- The members of two query parameters with different names have one key exactly when both
names begin with a small letter and with the same letters.  The parameters type of an
operation that declares no query parameter twice is written into the parameters module.
It has exactly one member for each query parameter, ordered by key, and the keys are
distinct exactly when no two names begin with a small letter and the same letters. -/
theorem memberKeys_distinct_iff (settings : Settings) (schemasGenerated : Bool)
    (document : Document) {endpoint : Endpoint}
    (member : endpoint ∈ document.selfContained.endpoints) (query : endpoint.hasQuery) :
    (∀ first ∈ endpoint.operation.parametersAt .query,
      ∀ second ∈ endpoint.operation.parametersAt .query, first.name ≠ second.name ->
        ((queryMember first).key = (queryMember second).key ↔
          Naming.SharesLetters first.name second.name)) ∧
    (((endpoint.operation.parametersAt .query).map Parameter.name).Nodup ->
      (Exists fun body : String =>
        paramsBody? settings schemasGenerated document.selfContained = some body ∧
          Text.Occurs ((ownAlias endpoint).declaration (siblingContext settings schemasGenerated))
            body) ∧
      (ownAlias endpoint).entries.Perm
        ((endpoint.operation.parametersAt .query).map queryMember) ∧
      (ownAlias endpoint).entries.Pairwise (fun first second => first.key ≤ second.key) ∧
      (((ownAlias endpoint).entries.map QueryMember.key).Nodup ↔
        ∀ first ∈ endpoint.operation.parametersAt .query,
          ∀ second ∈ endpoint.operation.parametersAt .query,
            Naming.SharesLetters first.name second.name -> first.name = second.name)) := by
  constructor
  · intro first _ second _ notSame
    rw [key_queryMember_eq_iff, or_iff_right notSame]
  · intro different
    exact ⟨occurs_ownAlias_paramsBody settings schemasGenerated _ member query,
      entries_ownAlias_perm endpoint, pairwise_entries_ownAlias endpoint,
      nodup_keys_ownAlias_iff different⟩

/-- A query parameter that may be left out. -/
def optionalQuery (name : String) : Referable Parameter :=
  .inline ⟨name, .query, false, none⟩

/-- A path whose item shares one query parameter with an operation that declares another. -/
def searchedItems (shared own : String) : Document :=
  ⟨⟨[("/items", .inline {
      parameters := some [optionalQuery shared]
      get := some ⟨none, some [optionalQuery own], none, .empty⟩ })], List.nodup_singleton _⟩, none⟩

/-- The operation of that path. -/
def searchItems (shared own : String) : Endpoint :=
  ⟨.get, "/items", ⟨none, some [optionalQuery shared, optionalQuery own], none, .empty⟩⟩

theorem endpoints_searchedItems (shared own : String) :
    (searchedItems shared own).selfContained.endpoints = [searchItems shared own] := rfl

/-- The members for `page` and `X-Sort` have different keys. -/
theorem memberKeys_page_sort_distinct :
    searchItems "page" "X-Sort" ∈ (searchedItems "page" "X-Sort").selfContained.endpoints ∧
      ((ownAlias (searchItems "page" "X-Sort")).entries.map QueryMember.key).Nodup := by
  have member : searchItems "page" "X-Sort" ∈
      (searchedItems "page" "X-Sort").selfContained.endpoints := by
    rw [endpoints_searchedItems]
    exact List.mem_singleton_self _
  have facts := (memberKeys_distinct_iff {} false _ member rfl).2 (by decide)
  exact ⟨member, facts.2.2.2.mpr (by decide)⟩

/-- The members for `filter[a]` and `filter[b]` are both called `filter`. -/
theorem memberKeys_filters_not_distinct :
    ¬ ∀ declared ∈ paramsAliases (searchedItems "filter[a]" "filter[b]").selfContained,
      (declared.entries.map QueryMember.key).Nodup := by
  intro distinct
  have declared : ownAlias (searchItems "filter[a]" "filter[b]") ∈
      paramsAliases (searchedItems "filter[a]" "filter[b]").selfContained := by
    rw [(paramsAliases_perm _).mem_iff, endpoints_searchedItems]
    exact List.mem_singleton_self _
  have keys := distinct _ declared
  rw [((entries_ownAlias_perm _).map QueryMember.key).nodup_iff] at keys
  revert keys
  decide

end Modules
end OpenApiTypes
