import OpenApiTypes.Proofs.Naming.Quoted

namespace OpenApiTypes
namespace Naming

/-!
# Reading property keys back

A key is read from its first character on: behind a quote up to the quote that closes it,
and otherwise as far as characters continue an identifier.  No bare key begins with a quote,
so that both readings fit together, and a key says which name it was made of.
-/

/-- The text of a quoted literal, and what stands behind its closing quote. -/
def readQuoted? : List Char -> Option (List Char × List Char)
  | '\'' :: rest => unquote? rest
  | _ => none

/-- The identifier at the front, and what stands behind it. -/
def readIdentifier? : List Char -> Option (List Char × List Char)
  | [] => none
  | first :: rest =>
      if startsIdentifier first then
        some (first :: rest.takeWhile continuesIdentifier, rest.dropWhile continuesIdentifier)
      else none

/-- The name of the key at the front, and what stands behind the key. -/
def readKey? (characters : List Char) : Option (List Char × List Char) :=
  match characters with
  | '\'' :: _ => readQuoted? characters
  | _ => readIdentifier? characters

/-- A quoted text is read up to its last quote, whatever stands behind it. -/
theorem readQuoted?_singleQuoted (text : String) (rest : List Char) :
    readQuoted? ((singleQuoted text).toList ++ rest) = some (text.toList, rest) := by
  rw [toList_singleQuoted, List.cons_append, List.append_assoc]
  exact unquote?_escapeChars text.toList rest

/-- An identifier is read up to the first character that does not continue it. -/
theorem readIdentifier?_append {characters rest : List Char}
    (identifier : isIdentifierChars characters)
    (ends : ∀ character ∈ rest.head?, continuesIdentifier character = false) :
    readIdentifier? (characters ++ rest) = some (characters, rest) := by
  cases characters with
  | nil => cases identifier
  | cons first later =>
      rw [isIdentifierChars, Bool.and_eq_true] at identifier
      rcases identifier with ⟨starts, continues⟩
      have taken : (later ++ rest).takeWhile continuesIdentifier = later := by
        rw [List.takeWhile_append_of_pos (List.all_eq_true.mp continues)]
        cases rest with
        | nil => exact List.append_nil later
        | cons character rest =>
            rw [List.takeWhile_cons_of_neg (by simp [ends character rfl]), List.append_nil]
      have dropped : (later ++ rest).dropWhile continuesIdentifier = rest := by
        rw [List.dropWhile_append_of_pos (List.all_eq_true.mp continues)]
        cases rest with
        | nil => rfl
        | cons character rest =>
            exact List.dropWhile_cons_of_neg (by simp [ends character rfl])
      rw [List.cons_append, readIdentifier?, if_pos starts, taken, dropped]

/-- The key of a property is read back as the name of the property, and reading stops where
the key does. -/
theorem readKey?_propertyKey (name : String) {rest : List Char}
    (ends : ∀ character ∈ rest.head?, continuesIdentifier character = false) :
    readKey? ((propertyKey name).toList ++ rest) = some (name.toList, rest) := by
  rw [propertyKey]
  split
  next identifier =>
    have bare : readKey? (name.toList ++ rest) = readIdentifier? (name.toList ++ rest) := by
      unfold readKey?
      split
      next characters starts =>
        -- A quote begins no identifier.
        rw [isIdentifier] at identifier
        cases written : name.toList with
        | nil =>
            rw [written] at identifier
            cases identifier
        | cons first later =>
            rw [written, List.cons_append] at starts
            cases starts
            rw [written] at identifier
            cases identifier
      next => rfl
    rw [bare]
    exact readIdentifier?_append identifier ends
  next =>
    have quoted : readKey? ((singleQuoted name).toList ++ rest) =
        readQuoted? ((singleQuoted name).toList ++ rest) := by
      rw [toList_singleQuoted]
      rfl
    rw [quoted]
    exact readQuoted?_singleQuoted name rest

/-- Different names have different keys, also where one of them is bare. -/
theorem propertyKey_injective : Function.Injective propertyKey := by
  intro first second same
  have read (name : String) : readKey? (propertyKey name).toList = some (name.toList, []) := by
    have whole : readKey? ((propertyKey name).toList ++ []) = some (name.toList, []) :=
      readKey?_propertyKey name nofun
    rwa [List.append_nil] at whole
  have readSame := (read first).symm.trans ((congrArg (readKey? ∘ String.toList) same).trans
    (read second))
  exact String.toList_inj.mp (congrArg Prod.fst (Option.some.inj readSame))

example : readKey? "'it\\'s\\\\': string;".toList = some ("it's\\".toList, ": string;".toList) := by
  decide

end Naming
end OpenApiTypes
