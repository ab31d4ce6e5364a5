import OpenApiTypes.Text.Lines
import Mathlib.Data.List.Basic

namespace OpenApiTypes
namespace Text

/-!
# The pieces of a text

A text is cut at every separator.  So the pieces of two texts with a separator between them
are those of both, and the last piece is what follows the last separator.
-/

theorem splitAt_ne_nil (separator : Char) (characters : List Char) :
    splitAt separator characters ≠ [] := by
  cases characters with
  | nil => exact List.cons_ne_nil _ _
  | cons character rest =>
      rw [splitAt]
      split
      · exact List.cons_ne_nil _ _
      · split <;> exact List.cons_ne_nil _ _

/-- A separator between two texts keeps their pieces apart. -/
theorem splitAt_append (separator : Char) (first second : List Char) :
    splitAt separator (first ++ separator :: second) =
      splitAt separator first ++ splitAt separator second := by
  induction first with
  | nil =>
      change splitAt separator (separator :: second) = [] :: splitAt separator second
      rw [splitAt, if_pos rfl]
  | cons character rest inductionHypothesis =>
      rw [List.cons_append, splitAt, splitAt, inductionHypothesis]
      by_cases same : character = separator
      · rw [if_pos same, if_pos same, List.cons_append]
      · rw [if_neg same, if_neg same]
        cases cut : splitAt separator rest with
        | nil => exact absurd cut (splitAt_ne_nil separator rest)
        | cons piece pieces => rfl

theorem splitAt_of_not_mem {separator : Char} {characters : List Char}
    (absent : separator ∉ characters) : splitAt separator characters = [characters] := by
  induction characters with
  | nil => rfl
  | cons character rest inductionHypothesis =>
      rw [List.mem_cons, not_or] at absent
      rw [splitAt, if_neg (fun same => absent.1 same.symm), inductionHypothesis absent.2]

/-- No piece holds the separator. -/
theorem not_mem_of_mem_splitAt {separator : Char} {characters piece : List Char}
    (member : piece ∈ splitAt separator characters) : separator ∉ piece := by
  induction characters generalizing piece with
  | nil =>
      rw [splitAt, List.mem_singleton] at member
      rw [member]
      exact List.not_mem_nil
  | cons character rest inductionHypothesis =>
      rw [splitAt] at member
      split at member
      · rcases List.mem_cons.mp member with rfl | later
        · exact List.not_mem_nil
        · exact inductionHypothesis later
      · next different =>
          cases cut : splitAt separator rest with
          | nil => exact absurd cut (splitAt_ne_nil separator rest)
          | cons head tail =>
              rw [cut] at member inductionHypothesis
              rcases List.mem_cons.mp member with rfl | later
              · rw [List.mem_cons, not_or]
                exact ⟨fun same => different same.symm,
                  inductionHypothesis (List.mem_cons_self ..)⟩
              · exact inductionHypothesis (List.mem_cons_of_mem head later)

/-- A text is its pieces with the separator in front of all but the first. -/
theorem exists_splitAt (separator : Char) (characters : List Char) :
    ∃ first more, splitAt separator characters = first :: more ∧
      characters = first ++ more.flatMap (separator :: ·) := by
  induction characters with
  | nil => exact ⟨[], [], rfl, rfl⟩
  | cons character rest inductionHypothesis =>
      rcases inductionHypothesis with ⟨first, more, cut, same⟩
      rw [splitAt, cut]
      split
      next isSeparator =>
        refine ⟨[], first :: more, rfl, ?_⟩
        rw [List.nil_append, List.flatMap_cons, List.cons_append, ← same, isSeparator]
      next =>
        refine ⟨character :: first, more, rfl, ?_⟩
        rw [List.cons_append, ← same]

/-- Pieces with the separator in front of all but the first are found again. -/
theorem splitAt_append_flatMap {separator : Char} {first : List Char} {more : List (List Char)}
    (absent : ∀ piece ∈ first :: more, separator ∉ piece) :
    splitAt separator (first ++ more.flatMap (separator :: ·)) = first :: more := by
  induction more generalizing first with
  | nil =>
      rw [List.flatMap_nil, List.append_nil]
      exact splitAt_of_not_mem (absent first List.mem_cons_self)
  | cons second more inductionHypothesis =>
      rw [List.forall_mem_cons] at absent
      rw [List.flatMap_cons, List.cons_append, splitAt_append, splitAt_of_not_mem absent.1,
        inductionHypothesis absent.2, List.singleton_append]

theorem pieces_append (separator : Char) (first second : String) :
    pieces separator (first ++ String.singleton separator ++ second) =
      pieces separator first ++ pieces separator second := by
  unfold pieces
  rw [String.toList_append, String.toList_append, String.toList_singleton, List.append_assoc,
    List.singleton_append, splitAt_append, List.map_append]

theorem exists_last_separator {separator : Char} {characters : List Char}
    (present : separator ∈ characters) :
    ∃ before last, characters = before ++ separator :: last ∧ separator ∉ last := by
  rcases List.eq_append_cons_of_mem (List.mem_reverse.mpr present) with
    ⟨last, before, shape, absent⟩
  refine ⟨before.reverse, last.reverse, ?_, by simpa using absent⟩
  rw [← List.reverse_reverse characters, shape]
  simp

end Text
end OpenApiTypes
