import OpenApiTypes.Naming

namespace OpenApiTypes
namespace Naming

/-!
# Reading quoted texts back

A quoted text is read from its opening quote on: a backslash takes the next character as
it is, and the first quote that no backslash takes ends the text.  Escaping puts a
backslash in front of exactly the two characters that reading does not take as they are,
so a quoted text is read back as the text that was quoted, and reading stops at its last
quote.
-/

/-- The text up to the closing quote, and what stands behind that quote. -/
def unquote? : List Char -> Option (List Char × List Char)
  | [] => none
  | '\'' :: rest => some ([], rest)
  | ['\\'] => none
  | '\\' :: taken :: rest => (unquote? rest).map (Prod.map (taken :: ·) id)
  | character :: rest => (unquote? rest).map (Prod.map (character :: ·) id)

/-- An escaped character is read as that character. -/
theorem unquote?_escapeChar_append (character : Char) (rest : List Char) :
    unquote? (escapeChar character ++ rest) =
      (unquote? rest).map (Prod.map (character :: ·) id) := by
  by_cases backslash : character = '\\'
  · subst backslash
    rfl
  · by_cases quote : character = '\''
    · subst quote
      rfl
    · simp [escapeChar, unquote?, backslash, quote]

/-- An escaped text is read up to the quote behind it. -/
theorem unquote?_escapeChars (characters rest : List Char) :
    unquote? (escapeChars characters ++ '\'' :: rest) = some (characters, rest) := by
  induction characters with
  | nil => rfl
  | cons character later inductionHypothesis =>
      rw [escapeChars, List.flatMap_cons, List.append_assoc, unquote?_escapeChar_append]
      change (unquote? (escapeChars later ++ '\'' :: rest)).map _ = _
      rw [inductionHypothesis]
      rfl

theorem toList_singleQuoted (text : String) :
    (singleQuoted text).toList = '\'' :: (escapeChars text.toList ++ ['\'']) := by
  simp [singleQuoted, escapeSingleQuoted]

/-- Different texts have different quoted forms. -/
theorem singleQuoted_injective {first second : String}
    (same : singleQuoted first = singleQuoted second) : first = second := by
  have characters := congrArg String.toList same
  rw [toList_singleQuoted, toList_singleQuoted] at characters
  have read := congrArg unquote? (List.cons.inj characters).2
  rw [unquote?_escapeChars, unquote?_escapeChars] at read
  exact String.toList_inj.mp (congrArg Prod.fst (Option.some.inj read))

end Naming
end OpenApiTypes
