import OpenApiTypes.Proofs.Registry.Lookup
import OpenApiTypes.Proofs.Text.Shuffled
import Mathlib.Data.List.Forall2

namespace OpenApiTypes

/-!
# Registries in another order

Two registries may hold alike values under the same names and declare them in different
orders.  Looking a name up finds alike values in both, and what is made of each entry is
again the same up to order.
-/

section Alike

variable {Item Other Made OtherMade : Type} {Same : Item -> Other -> Prop}

/-- Mapping alike options in like ways gives alike options. -/
theorem rel_optionMap {SameMade : Made -> OtherMade -> Prop} {first : Option Item}
    {second : Option Other} (related : Option.Rel Same first second) {make : Item -> Made}
    {other : Other -> OtherMade}
    (agree : forall (one : Item) (two : Other), Same one two -> SameMade (make one) (other two)) :
    Option.Rel SameMade (first.map make) (second.map other) := by
  cases related with
  | none => exact .none
  | some same => exact .some (agree _ _ same)

/-- What is made of alike lists is the same when it is the same for alike members. -/
theorem map_eq_of_forall₂ {first : List Item} {second : List Other}
    (each : List.Forall₂ Same first second) {make : Item -> Made} {other : Other -> Made}
    (agree : ∀ one ∈ first, forall two : Other, Same one two -> make one = other two) :
    first.map make = second.map other := by
  induction each with
  | nil => rfl
  | cons same _ inductionHypothesis =>
      rw [List.map_cons, List.map_cons, agree _ List.mem_cons_self _ same, inductionHypothesis]
      intro one member
      exact agree one (List.mem_cons_of_mem _ member)

/-- What is found by tests that agree on alike members is alike. -/
theorem find?_of_forall₂ {first : List Item} {second : List Other} {test : Item -> Bool}
    {other : Other -> Bool} (each : List.Forall₂ Same first second)
    (agree : forall (one : Item) (two : Other), Same one two -> test one = other two) :
    Option.Rel Same (first.find? test) (second.find? other) := by
  induction each with
  | nil => exact .none
  | @cons one two _ _ same _ inductionHypothesis =>
      rw [List.find?_cons, List.find?_cons, agree one two same]
      cases other two with
      | true => exact .some same
      | false => exact inductionHypothesis

end Alike

namespace Registry

variable {Entry Made : Type}

/-- An entry of the same name with an alike value. -/
def AlikeEntry (Alike : Entry -> Entry -> Prop) (first second : String × Entry) : Prop :=
  first.1 = second.1 ∧ Alike first.2 second.2

/-- Two registries with alike values under the same names, in whatever order. -/
def Reordered (Alike : Entry -> Entry -> Prop) (first second : Registry Entry) : Prop :=
  Exists fun middle : List (String × Entry) =>
    List.Forall₂ (AlikeEntry Alike) first.entries middle ∧ middle.Perm second.entries

private theorem names_eq_of_forall₂ {Alike : Entry -> Entry -> Prop}
    {first second : List (String × Entry)}
    (each : List.Forall₂ (AlikeEntry Alike) first second) :
    first.map Prod.fst = second.map Prod.fst := by
  induction each with
  | nil => rfl
  | cons same _ inductionHypothesis => rw [List.map_cons, List.map_cons, same.1, inductionHypothesis]

private theorem lookup_of_forall₂ {Alike : Entry -> Entry -> Prop}
    {first second : List (String × Entry)}
    (each : List.Forall₂ (AlikeEntry Alike) first second) (name : String) :
    Option.Rel Alike (first.lookup name) (second.lookup name) := by
  induction each with
  | nil => exact .none
  | @cons one other _ _ same _ inductionHypothesis =>
      rw [List.lookup_cons, List.lookup_cons, ← same.1]
      cases name == one.1 with
      | true => exact .some same.2
      | false => exact inductionHypothesis

namespace Reordered

variable {Alike : Entry -> Entry -> Prop} {first second : Registry Entry}

/-- Names are distinct, so the entries of the second registry are an arrangement of values
alike to those of the first. -/
theorem shuffled (reordered : Reordered Alike first second) :
    Exists fun middle : List (String × Entry) =>
      List.Forall₂ (AlikeEntry Alike) first.entries middle ∧
        Text.Shuffled Prod.fst middle second.entries := by
  rcases reordered with ⟨middle, each, perm⟩
  have distinct : (middle.map Prod.fst).Nodup := names_eq_of_forall₂ each ▸ first.distinct
  exact ⟨middle, each, (Text.shuffled_iff_perm distinct).mpr perm⟩

/-- Looking a name up finds alike values. -/
theorem get? (reordered : Reordered Alike first second) (name : String) :
    Option.Rel Alike (first.get? name) (second.get? name) := by
  rcases reordered.shuffled with ⟨middle, each, order⟩
  have found := lookup_of_forall₂ each name
  rwa [order.lookup_eq name] at found

theorem size_eq (reordered : Reordered Alike first second) : first.size = second.size := by
  rcases reordered with ⟨middle, each, perm⟩
  exact each.length_eq.trans perm.length_eq

theorem isEmpty_eq (reordered : Reordered Alike first second) :
    first.isEmpty = second.isEmpty := by
  have sizes : first.entries.length = second.entries.length := reordered.size_eq
  rw [Registry.isEmpty, Registry.isEmpty, Bool.eq_iff_iff, List.isEmpty_iff, List.isEmpty_iff,
    ← List.length_eq_zero_iff, ← List.length_eq_zero_iff, sizes]

/-- Filtering alike entries alike gives registries that are the same up to order. -/
theorem filterMap (reordered : Reordered Alike first second) {AlikeMade : Made -> Made -> Prop}
    {keep other : String × Entry -> Option Made}
    (agree : forall (name : String) (one two : Entry), Alike one two ->
      Option.Rel AlikeMade (keep (name, one)) (other (name, two))) :
    Reordered AlikeMade (first.filterMap keep) (second.filterMap other) := by
  rcases reordered with ⟨middle, each, perm⟩
  refine ⟨middle.filterMap (fun entry => (other entry).map (fun value => (entry.1, value))), ?_,
    perm.filterMap _⟩
  refine List.rel_filterMap ?_ each
  rintro ⟨name, one⟩ ⟨sameName, two⟩ ⟨rfl, alike⟩
  exact rel_optionMap (agree name one two alike) (fun _ _ alikeMade => ⟨rfl, alikeMade⟩)

end Reordered
end Registry
end OpenApiTypes
