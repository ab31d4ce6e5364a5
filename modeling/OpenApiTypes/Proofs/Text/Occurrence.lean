namespace OpenApiTypes
namespace Text

/-!
# Texts that stand in other texts

Generated modules are put together from smaller texts: types in declarations, and
declarations in bodies.  What stands in a part stands in the whole.
-/

/-- The first text stands somewhere in the second one, in one piece. -/
def Occurs (part whole : String) : Prop :=
  Exists fun before : String => Exists fun after : String => whole = before ++ part ++ after

namespace Occurs

theorem refl (text : String) : Occurs text text :=
  ⟨"", "", by rw [String.empty_append, String.append_empty]⟩

theorem append_right {part first : String} (inside : Occurs part first) (second : String) :
    Occurs part (first ++ second) := by
  rcases inside with ⟨before, after, rfl⟩
  exact ⟨before, after ++ second, String.append_assoc⟩

theorem append_left {part second : String} (inside : Occurs part second) (first : String) :
    Occurs part (first ++ second) := by
  rcases inside with ⟨before, after, rfl⟩
  refine ⟨first ++ before, after, ?_⟩
  rw [String.append_assoc, String.append_assoc, String.append_assoc]

theorem trans {part text whole : String} (inside : Occurs part text)
    (outside : Occurs text whole) : Occurs part whole := by
  rcases outside with ⟨before, after, rfl⟩
  exact (inside.append_left before).append_right after

/-- Each of several texts stands in what joins them. -/
theorem intercalate {part : String} {texts : List String} (member : part ∈ texts)
    (separator : String) : Occurs part (separator.intercalate texts) := by
  induction texts with
  | nil => cases member
  | cons first rest inductionHypothesis =>
      cases rest with
      | nil =>
          rw [List.mem_singleton.mp member, String.intercalate_singleton]
          exact refl first
      | cons second later =>
          rw [String.intercalate_cons_cons]
          rcases List.mem_cons.mp member with rfl | afterwards
          · exact ((refl part).append_right separator).append_right _
          · exact (inductionHypothesis afterwards).append_left _

theorem subset {part whole : String} (inside : Occurs part whole) :
    part.toList ⊆ whole.toList := by
  rcases inside with ⟨before, after, rfl⟩
  intro character member
  rw [String.toList_append, String.toList_append, List.mem_append, List.mem_append]
  exact Or.inl (Or.inr member)

end Occurs
end Text
end OpenApiTypes
