import OpenApiTypes.Document.Basic
import OpenApiTypes.Naming

namespace OpenApiTypes
namespace Naming

/-!
# What a type name keeps of an operation

A parameters type is named after the method and the words of the path.  Naming walks
over the path once and capitalizes as it goes; the first part here says the same in
terms of the words themselves.  The second part recovers from a name what is in it.
The method is: no capitalized method begins with another one.  Of the path only the
capitalized words in a row are, so what stands between words, where one word ends and
the next one begins, and the case of the first letters of words are lost.
-/

/-- The words of a path: its longest runs of word characters. -/
def pathWords (path : String) : List (List Char) :=
  (path.toList.splitOnP (fun character => !isWordChar character)).filter
    (fun word => !word.isEmpty)

/-- The capitalized words of a path, in a row. -/
def capitalWords (path : String) : List Char :=
  (pathWords path).flatMap Text.capitalizeChars

/-! ## Naming by words -/

/-- Word characters are ASCII, so their capitals need no table. -/
theorem upperOf_of_isWordChar {character : Char} (word : isWordChar character = true) :
    Text.upperOf character = [character.toUpper] := by
  have small : character.toNat < 0x80 := by
    simp only [isWordChar, isLetter, isDigit, Bool.or_eq_true, Bool.and_eq_true,
      decide_eq_true_eq, beq_iff_eq, Char.le_def, UInt32.le_iff_toNat_le] at word
    rcases word with ((lower | upper) | digit) | underscore
    · exact Nat.lt_of_le_of_lt lower.2 (by decide)
    · exact Nat.lt_of_le_of_lt upper.2 (by decide)
    · exact Nat.lt_of_le_of_lt digit.2 (by decide)
    · rw [underscore]
      decide
  rw [Text.upperOf, if_pos small]

/-- The walk over a path by its pieces.  A walk that is not at the start of a word
leaves the first piece as it is, because the piece continues a word. -/
private theorem camelWords_eq_pieces (characters : List Char) :
    let pieces := characters.splitOnP (fun character => !isWordChar character)
    camelWords true characters = pieces.flatMap Text.capitalizeChars ∧
      camelWords false characters =
        pieces.headD [] ++ pieces.tail.flatMap Text.capitalizeChars := by
  induction characters with
  | nil => exact ⟨rfl, rfl⟩
  | cons character rest inductionHypothesis =>
      rcases List.exists_cons_of_ne_nil (List.splitOnP_ne_nil (fun c => !isWordChar c) rest) with
          ⟨first, others, split⟩
      rcases inductionHypothesis with ⟨fresh, within⟩
      rw [split] at fresh within
      by_cases word : isWordChar character
      · have pieces : (character :: rest).splitOnP (fun c => !isWordChar c) =
            (character :: first) :: others := by
          rw [List.splitOnP_cons_eq_if_modifyHead, split]
          simp [word]
        rw [pieces]
        simp [camelWords, word, within, Text.capitalizeChars, upperOf_of_isWordChar word]
      · have pieces : (character :: rest).splitOnP (fun c => !isWordChar c) =
            [] :: first :: others := by
          rw [List.splitOnP_cons_eq_if_modifyHead, split]
          simp [word]
        rw [pieces]
        simp [camelWords, word, fresh, Text.capitalizeChars]

/-- The walk over a path gives its capitalized words in a row. -/
theorem camelWords_eq_capitalWords (path : String) :
    camelWords true path.toList = capitalWords path := by
  rw [(camelWords_eq_pieces path.toList).1, capitalWords, pathWords]
  induction path.toList.splitOnP (fun character => !isWordChar character) with
  | nil => rfl
  | cons piece rest inductionHypothesis =>
      cases piece <;> simp [inductionHypothesis, Text.capitalizeChars]

/-- The characters of the name of a parameters type. -/
theorem toList_paramsTypeName (method path : String) :
    (paramsTypeName method path).toList =
      Text.capitalizeChars method.toList ++ capitalWords path ++ "Params".toList := by
  rw [paramsTypeName, camelWords_eq_capitalWords]
  simp [Text.capitalize]

/-! ## Reading a name back -/

/-- Two letters tell the capitalized methods apart. -/
private theorem method_eq_of_take_two : ∀ first ∈ Method.all, ∀ second ∈ Method.all,
    (Text.capitalizeChars first.name.toList).take 2 =
      (Text.capitalizeChars second.name.toList).take 2 -> first = second := by
  decide

/-- A capitalized method, followed by anything, shows the method. -/
private theorem method_eq_of_append {first second : Method} {firstRest secondRest : List Char}
    (same : Text.capitalizeChars first.name.toList ++ firstRest =
      Text.capitalizeChars second.name.toList ++ secondRest) : first = second := by
  have long : forall method : Method, 2 ≤ (Text.capitalizeChars method.name.toList).length := by
    intro method
    cases method <;> decide
  have heads := congrArg (List.take 2) same
  rw [List.take_append_of_le_length (long first),
    List.take_append_of_le_length (long second)] at heads
  exact method_eq_of_take_two first first.mem_all second second.mem_all heads

/-- Two operations get parameters types of one name exactly when they have the same
method and the capitalized words of their paths make the same row. -/
theorem paramsTypeName_eq_iff (first second : Method) (firstPath secondPath : String) :
    paramsTypeName first.name firstPath = paramsTypeName second.name secondPath ↔
      first = second ∧ capitalWords firstPath = capitalWords secondPath := by
  rw [← String.toList_inj, toList_paramsTypeName, toList_paramsTypeName,
    List.append_left_inj]
  constructor
  · intro same
    have sameMethod := method_eq_of_append same
    subst sameMethod
    exact ⟨rfl, List.append_cancel_left same⟩
  · rintro ⟨rfl, sameWords⟩
    rw [sameWords]

end Naming
end OpenApiTypes
