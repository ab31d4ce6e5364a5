import OpenApiTypes.Text.Order
import Mathlib.Data.List.Nodup

namespace OpenApiTypes
namespace Text

/-!
# Sorted names

Names are compared by a total order, so entries of distinct names have one sorted form,
whatever order they came in.
-/

private theorem ordered_iff (first second : String) :
    ordered first second = true ↔ first ≤ second := by
  rw [ordered, Bool.not_eq_true', decide_eq_false_iff_not, String.not_lt]

variable {Entry : Type}

private theorem ordered_trans (name : Entry -> String) (first second third : Entry)
    (firstOrder : ordered (name first) (name second) = true)
    (secondOrder : ordered (name second) (name third) = true) :
    ordered (name first) (name third) = true := by
  rw [ordered_iff] at firstOrder secondOrder ⊢
  exact String.le_trans firstOrder secondOrder

private theorem ordered_total (name : Entry -> String) (first second : Entry) :
    (ordered (name first) (name second) || ordered (name second) (name first)) = true := by
  rw [Bool.or_eq_true, ordered_iff, ordered_iff]
  exact String.le_total _ _

/-- Sorting leaves no name in front of a smaller one. -/
theorem pairwise_sortOn (name : Entry -> String) (entries : List Entry) :
    (sortOn name entries).Pairwise (fun first second => name first ≤ name second) := by
  refine (List.pairwise_mergeSort (ordered_trans name) (ordered_total name) entries).imp ?_
  intro first second order
  exact (ordered_iff _ _).mp order

/-- Sorting is stable: the entries of one name keep their order. -/
theorem filter_sortOn (name : Entry -> String) (value : String) (entries : List Entry) :
    (sortOn name entries).filter (fun entry => name entry = value) =
      entries.filter (fun entry => name entry = value) := by
  have tied : (entries.filter (fun entry => name entry = value)).Pairwise
      (fun first second => ordered (name first) (name second) = true) := by
    refine List.pairwise_of_forall_mem_list ?_
    intro first firstKept second secondKept
    have same : name second = name first :=
      (of_decide_eq_true (List.mem_filter.mp secondKept).2).trans
        (of_decide_eq_true (List.mem_filter.mp firstKept).2).symm
    exact (ordered_iff _ _).mpr (same ▸ String.le_refl _)
  have kept : (entries.filter (fun entry => name entry = value)).Sublist (sortOn name entries) :=
    List.sublist_mergeSort (ordered_trans name) (ordered_total name) tied List.filter_sublist
  have within := kept.filter (fun entry => name entry = value)
  rw [List.filter_filter] at within
  simp only [Bool.and_self] at within
  exact (within.eq_of_length ((sortOn_perm name entries).filter _).length_eq.symm).symm

/-- Where entries of one name stand in some relation to each other, sorting orders by name
first and then by that relation. -/
theorem pairwise_sortOn_of_ties {name : Entry -> String} {entries : List Entry}
    {relation : Entry -> Entry -> Prop}
    (ties : entries.Pairwise (fun first second =>
      name first = name second -> relation first second)) :
    (sortOn name entries).Pairwise (fun first second =>
      name first < name second ∨ name first = name second ∧ relation first second) := by
  rw [List.pairwise_iff_forall_sublist]
  intro first second pair
  have order := List.pairwise_iff_forall_sublist.mp (pairwise_sortOn name entries) pair
  by_cases before : name first < name second
  · exact Or.inl before
  · right
    have same : name first = name second := String.le_antisymm order (String.not_lt.mp before)
    refine ⟨same, List.pairwise_iff_forall_sublist.mp ties ?_ same⟩
    have tied := pair.filter (fun entry => name entry = name second)
    rw [filter_sortOn, List.filter_eq_self.mpr (by simp [same])] at tied
    exact tied.trans List.filter_sublist

/-- Sorting entries of distinct names puts the names in ascending order. -/
theorem ascending_sortOn {name : Entry -> String} {entries : List Entry}
    (distinct : (entries.map name).Nodup) :
    (sortOn name entries).Pairwise (fun first second => name first < name second) := by
  have different : (sortOn name entries).Pairwise
      (fun first second => name first ≠ name second) :=
    List.pairwise_map.mp (((sortOn_perm name entries).map name).nodup_iff.mpr distinct)
  refine ((pairwise_sortOn name entries).and different).imp ?_
  rintro first second ⟨order, notSame⟩
  by_contra notBefore
  exact notSame (String.le_antisymm order (String.not_lt.mp notBefore))

/-- Entries in ascending order of their names are what sorting makes of any arrangement
of them. -/
theorem sortOn_eq_of_perm {name : Entry -> String} {entries sorted : List Entry}
    (perm : entries.Perm sorted)
    (ascending : sorted.Pairwise (fun first second => name first < name second)) :
    sortOn name entries = sorted := by
  have arranged : (sortOn name entries).Perm sorted := (sortOn_perm name entries).trans perm
  have distinct : (sorted.map name).Nodup := by
    refine List.pairwise_map.mpr (ascending.imp ?_)
    intro first second order same
    rw [same] at order
    exact String.lt_irrefl _ order
  refine arranged.eq_of_pairwise ?_ (pairwise_sortOn name entries) (ascending.imp ?_)
  · intro first second firstMember secondMember before after
    exact List.inj_on_of_nodup_map distinct (arranged.mem_iff.mp firstMember) secondMember
      (String.le_antisymm before after)
  · intro first second order
    exact String.not_lt.mp (String.lt_asymm order)

/-- Sorting what is made of entries is sorting the entries. -/
theorem sortOn_map {Entry Made : Type} (name : Made -> String) (make : Entry -> Made)
    (entries : List Entry) :
    sortOn name (entries.map make) =
      (sortOn (fun entry => name (make entry)) entries).map make := by
  rw [sortOn, sortOn, List.map_mergeSort]
  intro _ _ _ _
  rfl

end Text
end OpenApiTypes
