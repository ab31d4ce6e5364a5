import OpenApiTypes.Proofs.Text.Order

namespace OpenApiTypes
namespace Text

/-!
# Entries in another order

Declarations may be written in any order.  Two lists are arrangements of the same
declarations when each name has the same entries in both, in the same order.  Where no name
stands twice this says no more than that one list is a permutation of the other.  Sorting by
name and looking a name up do not see the arrangement.
-/

variable {Entry Made : Type}

/-- Another arrangement of entries, in which the entries of one name keep their order. -/
def Shuffled (name : Entry -> String) (first second : List Entry) : Prop :=
  forall value : String,
    first.filter (fun entry => name entry = value) =
      second.filter (fun entry => name entry = value)

namespace Shuffled

theorem symm {name : Entry -> String} {first second : List Entry}
    (shuffled : Shuffled name first second) : Shuffled name second first :=
  fun value => (shuffled value).symm

theorem nil_of_nil {name : Entry -> String} {second : List Entry}
    (shuffled : Shuffled name [] second) : second = [] := by
  cases second with
  | nil => rfl
  | cons head rest =>
      have alone := shuffled (name head)
      simp at alone

/-- An arrangement of entries in ascending order begins with a least name. -/
private theorem head_le {name : Entry -> String} {head other : Entry} {rest others : List Entry}
    (shuffled : Shuffled name (head :: rest) (other :: others))
    (ascending : (head :: rest).Pairwise (fun first second => name first ≤ name second)) :
    name head ≤ name other := by
  have member : other ∈ (head :: rest).filter (fun entry => name entry = name other) := by
    rw [shuffled (name other)]
    simp
  rcases List.mem_cons.mp (List.mem_filter.mp member).1 with rfl | later
  · exact String.le_refl _
  · exact (List.pairwise_cons.mp ascending).1 other later

/-- Two arrangements that are both in ascending order are equal. -/
private theorem eq_of_ascending {name : Entry -> String} {first second : List Entry}
    (shuffled : Shuffled name first second)
    (firstOrder : first.Pairwise (fun first second => name first ≤ name second))
    (secondOrder : second.Pairwise (fun first second => name first ≤ name second)) :
    first = second := by
  induction first generalizing second with
  | nil => exact shuffled.nil_of_nil.symm
  | cons head rest inductionHypothesis =>
      cases second with
      | nil => exact absurd shuffled.symm.nil_of_nil (List.cons_ne_nil head rest)
      | cons other others =>
          have sameName : name head = name other :=
            String.le_antisymm (head_le shuffled firstOrder) (head_le shuffled.symm secondOrder)
          have heads := shuffled (name other)
          simp only [List.filter_cons, sameName, decide_true, if_true, List.cons.injEq] at heads
          rcases heads with ⟨rfl, _⟩
          have tails : Shuffled name rest others := by
            intro value
            have whole := shuffled value
            by_cases here : name head = value
            · simpa [List.filter_cons, here] using whole
            · simpa [List.filter_cons, here] using whole
          rw [inductionHypothesis tails (List.pairwise_cons.mp firstOrder).2
            (List.pairwise_cons.mp secondOrder).2]

/-- Sorting by name does not see the arrangement. -/
theorem sortOn_eq {name : Entry -> String} {first second : List Entry}
    (shuffled : Shuffled name first second) : sortOn name first = sortOn name second := by
  have sorted : Shuffled name (sortOn name first) (sortOn name second) := by
    intro value
    rw [filter_sortOn, filter_sortOn]
    exact shuffled value
  exact eq_of_ascending sorted (pairwise_sortOn name first) (pairwise_sortOn name second)

/-- Arrangements have the same entries, each as many times. -/
theorem perm {name : Entry -> String} {first second : List Entry}
    (shuffled : Shuffled name first second) : first.Perm second := by
  have sorted := (sortOn_perm name first).symm
  rw [shuffled.sortOn_eq] at sorted
  exact sorted.trans (sortOn_perm name second)

/-- What is made of each entry under its name is arranged as the entries are. -/
theorem flatMap {name : Entry -> String} {madeName : Made -> String} {first second : List Entry}
    (shuffled : Shuffled name first second) {make : Entry -> List Made}
    (keepsName : forall entry : Entry, ∀ made ∈ make entry, madeName made = name entry) :
    Shuffled madeName (first.flatMap make) (second.flatMap make) := by
  have split (entries : List Entry) (value : String) :
      (entries.flatMap make).filter (fun made => madeName made = value) =
        (entries.filter (fun entry => name entry = value)).flatMap make := by
    induction entries with
    | nil => rfl
    | cons head rest inductionHypothesis =>
        rw [List.flatMap_cons, List.filter_append, inductionHypothesis, List.filter_cons]
        by_cases here : name head = value
        · have all : (make head).filter (fun made => madeName made = value) = make head := by
            rw [List.filter_eq_self]
            intro made member
            simp [keepsName head made member, here]
          simp [here, all]
        · have none : (make head).filter (fun made => madeName made = value) = [] := by
            rw [List.filter_eq_nil_iff]
            intro made member
            simp [keepsName head made member, here]
          simp [here, none]
  intro value
  rw [split first, split second, shuffled value]

/-- Mapping entries that keep their names keeps the arrangement. -/
theorem map {name : Entry -> String} {madeName : Made -> String} {first second : List Entry}
    (shuffled : Shuffled name first second) {make : Entry -> Made}
    (keepsName : forall entry : Entry, madeName (make entry) = name entry) :
    Shuffled madeName (first.map make) (second.map make) := by
  rw [List.map_eq_flatMap, List.map_eq_flatMap]
  refine shuffled.flatMap ?_
  intro entry made member
  rw [List.mem_singleton.mp member, keepsName]

/-- Looking a name up does not see the arrangement. -/
theorem lookup_eq {Value : Type} {first second : List (String × Value)}
    (shuffled : Shuffled Prod.fst first second) (value : String) :
    first.lookup value = second.lookup value := by
  have found (entries : List (String × Value)) :
      entries.lookup value =
        (entries.filter (fun entry => entry.1 = value)).head?.map Prod.snd := by
    induction entries with
    | nil => rfl
    | cons head rest inductionHypothesis =>
        rw [List.lookup_cons, List.filter_cons]
        by_cases here : head.1 = value
        · simp [here]
        · have away : (value == head.1) = false := beq_eq_false_iff_ne.mpr (Ne.symm here)
          simpa [here, away] using inductionHypothesis
  rw [found first, found second, shuffled value]

end Shuffled

/-- Where no name stands twice, the arrangements of a list are its permutations. -/
theorem shuffled_iff_perm {name : Entry -> String} {first second : List Entry}
    (distinct : (first.map name).Nodup) : Shuffled name first second ↔ first.Perm second := by
  constructor
  · exact Shuffled.perm
  · intro perm value
    have kept := perm.filter (fun entry => name entry = value)
    have few : (first.filter (fun entry => name entry = value)).length ≤ 1 := by
      rw [← List.countP_eq_length_filter]
      have once := List.nodup_iff_count_le_one.mp distinct value
      rw [List.count, List.countP_map] at once
      simpa [Function.comp_def, beq_eq_decide] using once
    match firstKept : first.filter (fun entry => name entry = value), few with
    | [], _ =>
        rw [firstKept] at kept
        exact (List.nil_perm.mp kept).symm
    | [only], _ =>
        rw [firstKept] at kept
        exact List.singleton_perm.mp kept

/-- What sorting makes of entries depends only on what is seen of them and on their names. -/
theorem map_sortOn_congr {Shown : Type} {name : Entry -> String} {look : Entry -> Shown}
    {first second : List Entry}
    (same : first.map (fun entry => (name entry, look entry)) =
      second.map (fun entry => (name entry, look entry))) :
    (sortOn name first).map look = (sortOn name second).map look := by
  have sorted (entries : List Entry) :
      (sortOn name entries).map look =
        (sortOn Prod.fst (entries.map (fun entry => (name entry, look entry)))).map Prod.snd := by
    rw [sortOn_map, List.map_map]
    rfl
  rw [sorted first, sorted second, same]

end Text
end OpenApiTypes
