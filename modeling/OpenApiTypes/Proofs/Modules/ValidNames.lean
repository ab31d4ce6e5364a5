import OpenApiTypes.Proofs.Modules.ParamsNames
import OpenApiTypes.Proofs.Naming.Patterns
import OpenApiTypes.Proofs.Naming.PropertyKeys
import OpenApiTypes.Proofs.Naming.TypeNames

namespace OpenApiTypes

/-!
# The names in the parameters module

A path and a parameter may have any characters.  The name of a parameters type is an identifier
nevertheless: the method gives its first letter, and what is kept of a path are characters of
words.  The key of a parameter is an identifier where its name begins like one in camel case,
and otherwise the name in quotes, from which the name is read back.
-/

namespace Naming

/-! ## Identifiers -/

theorem continuesIdentifier_of_isWordChar {character : Char}
    (word : isWordChar character = true) : continuesIdentifier character = true := by
  rw [isWordChar, Bool.or_eq_true, Bool.or_eq_true] at word
  rw [continuesIdentifier, startsIdentifier, Bool.or_eq_true, Bool.or_eq_true, Bool.or_eq_true]
  rcases word with (letter | digit) | underscore
  · exact .inl (.inl (.inl letter))
  · exact .inr digit
  · exact .inl (.inl (.inr underscore))

theorem isIdentifierChars_append {front rest : List Char}
    (identifier : isIdentifierChars front = true)
    (continues : ∀ character ∈ rest, continuesIdentifier character = true) :
    isIdentifierChars (front ++ rest) = true := by
  cases front with
  | nil => cases identifier
  | cons first later =>
      rw [isIdentifierChars, Bool.and_eq_true] at identifier
      rw [List.cons_append, isIdentifierChars, List.all_append, identifier.1, identifier.2,
        List.all_eq_true.mpr continues]
      rfl

/-- Letters alone are an identifier. -/
theorem isIdentifierChars_of_letters {characters : List Char} (given : characters ≠ [])
    (letters : ∀ character ∈ characters, isLetter character = true) :
    isIdentifierChars characters = true := by
  cases characters with
  | nil => exact absurd rfl given
  | cons first rest =>
      rw [List.forall_mem_cons] at letters
      have starts : isIdentifierChars [first] = true := by
        rw [isIdentifierChars, startsIdentifier, letters.1]
        rfl
      refine isIdentifierChars_append starts fun character listed => ?_
      apply continuesIdentifier_of_isWordChar
      rw [isWordChar, letters.2 character listed, Bool.true_or, Bool.true_or]

/-- Whatever its path is, the parameters type of an operation is named by an identifier. -/
theorem isIdentifier_paramsTypeName (method : Method) (path : String) :
    isIdentifier (paramsTypeName method.name path) = true := by
  have words := isWordChar_of_mem_paramsTypeName method path
  rw [toList_paramsTypeName, List.append_assoc] at words
  have starts : isIdentifierChars (Text.capitalizeChars method.name.toList) = true := by
    cases method <;> decide
  rw [isIdentifier, toList_paramsTypeName, List.append_assoc]
  refine isIdentifierChars_append starts fun character listed => ?_
  exact continuesIdentifier_of_isWordChar (words character (List.mem_append_right _ listed))

/-! ## Keys -/

/-- How the name of a parameter is spelled as a key. -/
inductive SpellsKey (name key : String) : Prop where
  /-- A name that begins with a small letter is cut down to the letters at its front. -/
  | bare (starts : StartsSmall name) (takes : camelWord.taken? name.toList = some key.toList)
      (letters : IsLongestRun isLetter key.toList name.toList)
      (identifier : isIdentifier key = true)
  /-- Any other name is quoted, and is read back up to the last character of the key. -/
  | quoted (other : ¬ StartsSmall name) (takes : camelWord.taken? name.toList = none)
      (reads : readQuoted? key.toList = some (name.toList, []))

theorem spellsKey_parameterKey (name : String) : SpellsKey name (parameterKey name) := by
  by_cases starts : StartsSmall name
  · have letters := toList_parameterKey_of_startsSmall starts
    have given := leadingLetters_ne_nil starts
    have takes := taken?_camelWord_of_startsSmall starts
    have run := isLongestRun_takeWhile isLetter name.toList
    rw [← letters] at given takes
    rw [← leadingLetters, ← letters] at run
    exact .bare starts takes run (isIdentifierChars_of_letters given run.accepted)
  · refine .quoted starts (taken?_camelWord_of_not_startsSmall starts) ?_
    rw [parameterKey_of_not_startsSmall starts, ← List.append_nil (singleQuoted name).toList]
    exact readQuoted?_singleQuoted name []

example : parameterKey "X-Rate\\it's" = "'X-Rate\\\\it\\'s'" ∧
    readQuoted? (parameterKey "X-Rate\\it's").toList = some ("X-Rate\\it's".toList, []) := by
  decide

end Naming

namespace Modules

/-- All names in a parameters module are valid.  The name of a parameters type is an identifier,
whatever characters stand in the path: the capitalized pieces of the path between the runs that
belong to no word stand between the method and `Params`.  The key of a parameter is what the
pattern of camel case takes from its name, namely all letters at the front, or where the
pattern takes nothing the whole name in quotes.  The types and the members that the module
declares have such names. -/
theorem params_names_valid :
    (forall (method : Method) (path : String),
      Naming.isIdentifier (Naming.paramsTypeName method.name path) = true ∧
        (Naming.paramsTypeName method.name path).toList =
          Text.capitalizeChars method.name.toList ++
            (Naming.betweenWords.split path.toList).flatMap Text.capitalizeChars ++
            "Params".toList) ∧
      (forall name : String, Naming.SpellsKey name (Naming.parameterKey name)) ∧
      forall document : Document, ∀ declared ∈ paramsAliases document,
        Naming.isIdentifier declared.name = true ∧
          ∃ endpoint ∈ document.endpoints,
            declared.name = Naming.paramsTypeName endpoint.method.name endpoint.path ∧
              ∀ entry ∈ declared.entries,
                ∃ parameter ∈ endpoint.operation.parametersAt .query,
                  Naming.SpellsKey parameter.name entry.key := by
  refine ⟨fun method path => ⟨Naming.isIdentifier_paramsTypeName method path, ?_⟩,
    Naming.spellsKey_parameterKey, fun document declared listed => ?_⟩
  · rw [Naming.toList_paramsTypeName, ← Naming.camelWords_eq_capitalWords,
      Naming.camelWords_eq_split]
  · rcases List.mem_map.mp ((paramsAliases_perm document).mem_iff.mp listed) with
      ⟨endpoint, kept, rfl⟩
    have named := Naming.isIdentifier_paramsTypeName endpoint.method endpoint.path
    refine ⟨named, endpoint, (List.mem_filter.mp kept).1, rfl, fun entry inside => ?_⟩
    rcases List.mem_map.mp ((entries_ownAlias_perm endpoint).mem_iff.mp inside) with
      ⟨parameter, given, rfl⟩
    exact ⟨parameter, given, Naming.spellsKey_parameterKey parameter.name⟩

end Modules
end OpenApiTypes
