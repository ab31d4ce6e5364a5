import OpenApiTypes.Proofs.Naming.ParameterKeys
import OpenApiTypes.Proofs.Naming.PathWords
import OpenApiTypes.Proofs.Text.Pattern

namespace OpenApiTypes
namespace Naming

/-!
# The patterns of names

A path is cut into words at the longest runs of characters that belong to no word, and the
camel-case word at the front of a parameter is what a pattern takes: small letters, and then
any number of capitals, each with the small letters behind it.  Naming walks over the
characters once instead.  Here the walks are shown to give what the patterns give: humps
behind a small letter go on as long as there are letters.
-/

open Text (Pattern)

/-- A capital ASCII letter. -/
def isCapitalLetter (character : Char) : Bool :=
  'A' <= character && character <= 'Z'

/-- A hump: `[A-Z][a-z]*`. -/
def hump : Pattern :=
  .followed (.one isCapitalLetter) (.many (.one isSmallLetter))

/-- The camel-case word at the front of a text: `[a-z]+(?:[A-Z][a-z]*)*`. -/
def camelWord : Pattern :=
  .followed (.atLeastOnce (.one isSmallLetter)) (.many hump)

/-- A character of no word. -/
def isBetweenWords (character : Char) : Bool :=
  !isWordChar character

/-- What stands between words: `[^A-Za-z0-9_]+`. -/
def betweenWords : Pattern :=
  .atLeastOnce (.one isBetweenWords)

/-! ## The words of a path -/

/-- The walk over a path by the pieces between the runs.  A walk that is not at the start of a
word leaves the first piece as it is, and a walk inside a run gives what it gives behind it. -/
private theorem camelWords_eq_splitBehind (characters : List Char) :
    (Exists fun first : List Char => Exists fun others : List (List Char) =>
      betweenWords.splitBehind 0 characters = first :: others ∧
        camelWords true characters = (first :: others).flatMap Text.capitalizeChars ∧
        camelWords false characters = first ++ others.flatMap Text.capitalizeChars) ∧
      camelWords true characters =
        (betweenWords.splitBehind (characters.takeWhile isBetweenWords).length
          characters).flatMap Text.capitalizeChars := by
  induction characters with
  | nil => exact ⟨⟨[], [], rfl, rfl, rfl⟩, rfl⟩
  | cons character rest inductionHypothesis =>
      rcases inductionHypothesis with ⟨⟨first, others, pieces, _, within⟩, behind⟩
      have split := Pattern.splitBehind_atLeastOnce_one isBetweenWords character rest
      change betweenWords.splitBehind 0 (character :: rest) = _ at split
      cases word : isWordChar character with
      | true =>
          have inWord : isBetweenWords character = false := congrArg (!·) word
          change _ = if _ then _ else (betweenWords.splitBehind 0 rest).modifyHead _ at split
          rw [inWord, pieces] at split
          have fresh : camelWords true (character :: rest) =
              ((character :: first) :: others).flatMap Text.capitalizeChars := by
            rw [camelWords, if_pos word, if_pos rfl, within, List.flatMap_cons,
              Text.capitalizeChars, upperOf_of_isWordChar word]
            rfl
          refine ⟨⟨character :: first, others, split, fresh, ?_⟩, ?_⟩
          · rw [camelWords, if_pos word, within]
            rfl
          · rw [List.takeWhile_cons_of_neg (Bool.eq_false_iff.mp inWord), List.length_nil, split]
            exact fresh
      | false =>
          have between : isBetweenWords character = true := congrArg (!·) word
          change _ = if _ then [] :: betweenWords.splitBehind _ rest else _ at split
          rw [between] at split
          have skips (fresh : Bool) : camelWords fresh (character :: rest) =
              camelWords true rest := by
            rw [camelWords, if_neg (Bool.eq_false_iff.mp word)]
          refine ⟨⟨[], _, split, (skips true).trans behind, (skips false).trans behind⟩, ?_⟩
          rw [List.takeWhile_cons_of_pos between, skips]
          exact behind

/-- The walk over a path gives the capitalized pieces between the runs, in a row. -/
theorem camelWords_eq_split (characters : List Char) :
    camelWords true characters =
      (betweenWords.split characters).flatMap Text.capitalizeChars := by
  rcases (camelWords_eq_splitBehind characters).1 with ⟨first, others, pieces, fresh, _⟩
  rw [fresh, Pattern.split, pieces]

example : betweenWords.split "/users/\x7buserId\x7d/pet-photos".toList =
    ["", "users", "userId", "pet", "photos"].map String.toList := by
  decide

/-! ## The word at the front of a parameter -/

theorem isLetter_eq_or (character : Char) :
    isLetter character = (isSmallLetter character || isCapitalLetter character) := rfl

theorem rest?_hump (character : Char) (rest : List Char) :
    hump.rest? (character :: rest) =
      if isCapitalLetter character then some (rest.dropWhile isSmallLetter) else none := by
  rw [hump, Pattern.rest?_followed_many, Pattern.rest?_one_cons]
  split
  next => exact Pattern.rest?_many_one isSmallLetter rest
  next => rfl

/-- Behind small letters, humps take all letters: a capital begins a further hump, and no other
letter is left behind a hump. -/
theorem rest?_many_hump (text : List Char) :
    (Pattern.many hump).rest? (text.dropWhile isSmallLetter) =
      some (text.dropWhile isLetter) := by
  induction text with
  | nil => exact Pattern.rest?_many_of_none rfl
  | cons character rest inductionHypothesis =>
      have letter := isLetter_eq_or character
      cases small : isSmallLetter character with
      | true =>
          rw [List.dropWhile_cons_of_pos small, inductionHypothesis,
            List.dropWhile_cons_of_pos (isLetter_of_isSmallLetter small)]
      | false =>
          have round := rest?_hump character rest
          rw [List.dropWhile_cons_of_neg (Bool.eq_false_iff.mp small)]
          rw [small, Bool.false_or] at letter
          cases capital : isCapitalLetter character with
          | true =>
              rw [capital] at round letter
              have less : (rest.dropWhile isSmallLetter).length < (character :: rest).length :=
                Nat.lt_succ_of_le (List.dropWhile_sublist isSmallLetter).length_le
              rw [Pattern.rest?_many_of_some round less, inductionHypothesis,
                List.dropWhile_cons_of_pos letter]
          | false =>
              rw [capital] at round letter
              rw [Pattern.rest?_many_of_none round,
                List.dropWhile_cons_of_neg (Bool.eq_false_iff.mp letter)]

/-- At the front of a name that begins with a small letter the word is the leading letters. -/
theorem taken?_camelWord_of_startsSmall {name : String} (starts : StartsSmall name) :
    camelWord.taken? name.toList = some (leadingLetters name) := by
  rcases starts.exists_cons with ⟨first, rest, characters, small⟩
  apply Pattern.taken?_of_rest?
  rw [characters, camelWord, Pattern.rest?_followed_many, Pattern.rest?_atLeastOnce_one,
    if_pos small, Option.bind_some, rest?_many_hump,
    List.dropWhile_cons_of_pos (isLetter_of_isSmallLetter small)]

/-- At the front of any other name there is no such word. -/
theorem taken?_camelWord_of_not_startsSmall {name : String} (other : ¬ StartsSmall name) :
    camelWord.taken? name.toList = none := by
  apply Pattern.taken?_of_rest?_eq_none
  cases characters : name.toList with
  | nil => rfl
  | cons first rest =>
      have notSmall := isSmallLetter_of_not_startsSmall other characters
      rw [camelWord, Pattern.rest?_followed_many, Pattern.rest?_atLeastOnce_one,
        if_neg (Bool.eq_false_iff.mp notSmall)]
      rfl

example : camelWord.taken? "pageSize[gt]".toList = some "pageSize".toList ∧
    camelWord.taken? "X-Rate".toList = none := by
  decide

/-- The most that can be taken from the front of a text with characters of a class alone. -/
structure IsLongestRun (accepts : Char -> Bool) (run text : List Char) : Prop where
  front : run <+: text
  accepted : ∀ character ∈ run, accepts character = true
  longest : forall other : List Char, other <+: text ->
    (∀ character ∈ other, accepts character = true) -> other <+: run

theorem isLongestRun_takeWhile (accepts : Char -> Bool) (text : List Char) :
    IsLongestRun accepts (text.takeWhile accepts) text where
  front := List.takeWhile_prefix accepts
  accepted := List.all_eq_true.mp List.all_takeWhile
  longest := by
    rintro other ⟨behind, rfl⟩ accepted
    rw [List.takeWhile_append_of_pos accepted]
    exact List.prefix_append other _

end Naming
end OpenApiTypes
