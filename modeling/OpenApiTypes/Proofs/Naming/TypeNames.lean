import OpenApiTypes.Proofs.Naming.PathWords

namespace OpenApiTypes
namespace Naming

/-!
# The names of parameters types

The name of a parameters type is made of word characters: a capitalized method, the
capitalized words of the path in a row, and `Params`.  The row never begins with a small
letter, and this is all that can be said of it: every other row of word characters is that
of some path.
-/

/-! ## Capital letters -/

theorem isSmallLetter_iff (character : Char) :
    isSmallLetter character = true ↔ 97 ≤ character.toNat ∧ character.toNat ≤ 122 := by
  have code : character.val.toNat = character.toNat := rfl
  simp only [isSmallLetter, Bool.and_eq_true, decide_eq_true_eq, Char.le_def,
    UInt32.le_iff_toNat_le, code]
  simp only [Char.reduceVal, UInt32.reduceToNat]

/-- The code points between `A` and `Z` are those of word characters. -/
theorem isWordChar_of_capital {character : Char} (low : 65 ≤ character.toNat)
    (high : character.toNat ≤ 90) : isWordChar character = true := by
  have capital : 'A' ≤ character ∧ character ≤ 'Z' := by
    simp only [Char.le_def, UInt32.le_iff_toNat_le]
    exact ⟨low, high⟩
  simp [isWordChar, isLetter, capital]

/-- A character that is no small letter is its own capital. -/
theorem toUpper_eq_self {character : Char} (other : isSmallLetter character = false) :
    character.toUpper = character := by
  have outside : ¬ ('a'.val ≤ character.val ∧ character.val ≤ 'z'.val) := by
    simpa [isSmallLetter, Char.le_def] using other
  unfold Char.toUpper
  rw [dif_neg outside]

/-- The capital of a small letter stands 32 code points in front of it. -/
theorem toNat_toUpper_of_isSmallLetter {character : Char}
    (small : isSmallLetter character = true) :
    character.toUpper.toNat = character.toNat - 32 := by
  have inside : 'a'.val ≤ character.val ∧ character.val ≤ 'z'.val := by
    simpa [isSmallLetter, Char.le_def] using small
  have bounds := (isSmallLetter_iff character).mp small
  have code : character.val.toNat = character.toNat := rfl
  -- the distance is negative, so it is added modulo the size of a code point
  have distance : ('A'.val - 'a'.val).toNat = 2 ^ 32 - 32 := by decide
  unfold Char.toUpper
  rw [dif_pos inside]
  change (character.val + ('A'.val - 'a'.val)).toNat = character.toNat - 32
  rw [UInt32.toNat_add, distance]
  omega

/-- The capital of a word character is a word character that is no small letter. -/
theorem toUpper_of_isWordChar {character : Char} (word : isWordChar character = true) :
    isWordChar character.toUpper = true ∧ isSmallLetter character.toUpper = false := by
  cases small : isSmallLetter character with
  | false =>
      rw [toUpper_eq_self small]
      exact ⟨word, small⟩
  | true =>
      have bounds := (isSmallLetter_iff character).mp small
      have code := toNat_toUpper_of_isSmallLetter small
      refine ⟨isWordChar_of_capital (by omega) (by omega), ?_⟩
      rw [Bool.eq_false_iff, Ne, isSmallLetter_iff]
      omega

/-! ## Rows of words -/

/-- Word characters in a row, the first of which is no small letter. -/
structure IsWordRow (row : List Char) : Prop where
  word : ∀ character ∈ row, isWordChar character = true
  capital : ∀ character ∈ row.head?, isSmallLetter character = false

private theorem isWordChar_of_mem_camelWords (fresh : Bool) (characters : List Char) :
    ∀ character ∈ camelWords fresh characters, isWordChar character = true := by
  induction characters generalizing fresh with
  | nil =>
      intro character member
      cases member
  | cons first rest inductionHypothesis =>
      rw [camelWords]
      split
      next word =>
        rw [List.forall_mem_cons]
        refine ⟨?_, inductionHypothesis false⟩
        cases fresh with
        | true => exact (toUpper_of_isWordChar word).1
        | false => exact word
      next => exact inductionHypothesis true

private theorem capital_head_camelWords (characters : List Char) :
    ∀ character ∈ (camelWords true characters).head?, isSmallLetter character = false := by
  induction characters with
  | nil =>
      intro character member
      cases member
  | cons first rest inductionHypothesis =>
      rw [camelWords]
      split
      next word =>
        intro character member
        cases member
        exact (toUpper_of_isWordChar word).2
      next => exact inductionHypothesis

/-- The capitalized words of a path make such a row. -/
theorem isWordRow_capitalWords (path : String) : IsWordRow (capitalWords path) := by
  rw [← camelWords_eq_capitalWords]
  exact ⟨isWordChar_of_mem_camelWords true _, capital_head_camelWords _⟩

private theorem camelWords_false_of_word {characters : List Char}
    (word : ∀ character ∈ characters, isWordChar character = true) :
    camelWords false characters = characters := by
  induction characters with
  | nil => rfl
  | cons first rest inductionHypothesis =>
      rw [List.forall_mem_cons] at word
      rw [camelWords, if_pos word.1, inductionHypothesis word.2]
      rfl

/-- A row is what a path consisting of it is capitalized to. -/
theorem capitalWords_ofList {row : List Char} (words : IsWordRow row) :
    capitalWords (String.ofList row) = row := by
  rw [← camelWords_eq_capitalWords, String.toList_ofList]
  cases row with
  | nil => rfl
  | cons first rest =>
      have word := List.forall_mem_cons.mp words.word
      rw [camelWords, if_pos word.1, if_pos rfl, toUpper_eq_self (words.capital first rfl),
        camelWords_false_of_word word.2]

/-! ## Names -/

/-- A capitalized method, a row of words, and `Params`. -/
def IsParamsName (name : String) : Prop :=
  ∃ (method : Method) (row : List Char), IsWordRow row ∧
    name.toList = Text.capitalizeChars method.name.toList ++ row ++ "Params".toList

/-- These are the names of parameters types, and no others are. -/
theorem exists_paramsTypeName_eq_iff (name : String) :
    (∃ (method : Method) (path : String), paramsTypeName method.name path = name) ↔
      IsParamsName name := by
  constructor
  · rintro ⟨method, path, rfl⟩
    exact ⟨method, capitalWords path, isWordRow_capitalWords path,
      toList_paramsTypeName method.name path⟩
  · rintro ⟨method, row, words, characters⟩
    refine ⟨method, String.ofList row, String.toList_inj.mp ?_⟩
    rw [toList_paramsTypeName, capitalWords_ofList words, characters]

/-- A name of a parameters type consists of word characters. -/
theorem isWordChar_of_mem_paramsTypeName (method : Method) (path : String) :
    ∀ character ∈ (paramsTypeName method.name path).toList, isWordChar character = true := by
  have methods : (Text.capitalizeChars method.name.toList).all isWordChar = true := by
    cases method <;> decide
  have suffix : "Params".toList.all isWordChar = true := by decide
  intro character member
  rw [toList_paramsTypeName, List.mem_append, List.mem_append] at member
  rcases member with (inMethod | inRow) | inSuffix
  · exact List.all_eq_true.mp methods character inMethod
  · exact (isWordRow_capitalWords path).word character inRow
  · exact List.all_eq_true.mp suffix character inSuffix

end Naming
end OpenApiTypes
