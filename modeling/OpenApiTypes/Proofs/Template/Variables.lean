import OpenApiTypes.Template.Scanner

namespace OpenApiTypes
namespace Template

/-!
# Variables in templates

A name between blanks in front of a closing brace is read as the variable of that name,
unless it is a word of the language.
-/

/-! ## Names -/

theorem isDecimal_of_startsName {character : Char} (starts : startsName character = true) :
    isDecimal character = false := by
  simp only [startsName, isDecimal, Bool.or_eq_true, Bool.and_eq_true, decide_eq_true_eq,
    beq_iff_eq, Bool.and_eq_false_iff, decide_eq_false_iff_not, Char.le_def,
    UInt32.le_iff_toNat_le, ← Char.toNat_inj] at starts ⊢
  simp only [Char.reduceVal, UInt32.reduceToNat, Char.reduceToNat] at starts ⊢
  have code : character.val.toNat = character.toNat := rfl
  omega

theorem isSpace_of_continuesName {character : Char} (continues : continuesName character = true) :
    isSpace character = false := by
  rw [Bool.eq_false_iff, isSpace, Ne, Bool.or_eq_true, Bool.or_eq_true, Bool.or_eq_true,
    beq_iff_eq, beq_iff_eq, beq_iff_eq, beq_iff_eq]
  rintro (((rfl | rfl) | rfl) | rfl) <;> cases continues

theorem ne_of_startsName {first other : Char} (starts : startsName first = true)
    (different : startsName other = false) : first ≠ other := by
  rintro rfl
  rw [starts] at different
  cases different

/-- A word that is read off a name in front of a blank begins that name. -/
theorem exactly?_append {expected name rest left : List Char}
    (letters : ∀ character ∈ expected, continuesName character = true)
    (read : exactly? expected (name ++ ' ' :: rest) = some left) :
    Exists fun more : List Char => name = expected ++ more ∧ left = more ++ ' ' :: rest := by
  induction expected generalizing name with
  | nil => exact ⟨name, rfl, (Option.some.inj read).symm⟩
  | cons first expected inductionHypothesis =>
      rw [List.forall_mem_cons] at letters
      cases name with
      | nil =>
          have space : first ≠ ' ' := by
            rintro rfl
            cases letters.1
          rw [List.nil_append, exactly?, if_neg space] at read
          cases read
      | cons character name =>
          rw [List.cons_append, exactly?] at read
          split at read
          next same =>
            obtain ⟨more, rfl, rfl⟩ := inductionHypothesis letters.2 read
            exact ⟨more, congrArg (· :: _) same.symm, rfl⟩
          next => cases read

/-- The words that are no variables. -/
def reservedWords : List String := ["not", "true", "True", "false", "False"]

/-- The characters are read as a variable. -/
def IsVariable (name : List Char) : Prop :=
  name.head?.any startsName ∧ name.all continuesName ∧ String.ofList name ∉ reservedWords

instance (name : List Char) : Decidable (IsVariable name) :=
  inferInstanceAs (Decidable (_ ∧ _ ∧ _))

/-- The characters from a blank and a closing brace on. -/
def blankClosing (rest : List Char) : List Char :=
  ' ' :: '\x7d' :: rest

/-!
## Reading a variable

The readers of expressions call each other in a row, and each of them lets a variable pass
as it is: no operator, no argument and no filter follows it, and neither a literal nor an
operator begins like it.
-/

section Variable

variable {name : List Char} (isVariable : IsVariable name) (rest : List Char)

include isVariable

theorem exists_cons_of_isVariable :
    Exists fun first : Char => Exists fun others : List Char =>
      name = first :: others ∧ startsName first = true ∧ ∀ other ∈ others, continuesName other := by
  obtain ⟨starts, continues, _⟩ := isVariable
  cases name with
  | nil => cases starts
  | cons first others =>
      rw [List.all_cons, Bool.and_eq_true, List.all_eq_true] at continues
      exact ⟨first, others, rfl, starts, continues.2⟩

theorem skipSpace_variable : skipSpace (' ' :: (name ++ rest)) = name ++ rest := by
  obtain ⟨first, others, rfl, starts, _⟩ := exists_cons_of_isVariable isVariable
  have noSpace : isSpace first = false :=
    isSpace_of_continuesName (by rw [continuesName, starts, Bool.true_or])
  rw [skipSpace, List.dropWhile_cons_of_pos rfl, List.cons_append,
    List.dropWhile_cons_of_neg (by rw [noSpace]; exact Bool.noConfusion)]

theorem plainName?_variable :
    plainName? (name ++ ' ' :: rest) = some (String.ofList name, ' ' :: rest) := by
  obtain ⟨first, others, rfl, starts, continues⟩ := exists_cons_of_isVariable isVariable
  rw [List.cons_append, plainName?, if_pos starts,
    List.takeWhile_append_of_pos continues, List.dropWhile_append_of_pos continues,
    List.takeWhile_cons_of_neg (by decide), List.dropWhile_cons_of_neg (by decide),
    List.append_nil]

theorem dottedName?_variable :
    dottedName? (name ++ ' ' :: rest) = some (String.ofList name, ' ' :: rest) := by
  rw [dottedName?, plainName?_variable isVariable]
  have noPart : dottedRest (' ' :: rest).length (' ' :: rest) = ([], ' ' :: rest) := rfl
  simp only [Option.bind_eq_bind, Option.bind_some, noPart, Option.pure_def]
  rw [String.ofList_nil, String.append_empty]

/-- No word is read off a longer name, and none that stands for an operator is a variable. -/
theorem wordOperator?_variable {word : String} (reserved : word ∈ reservedWords)
    (letters : word.toList.all continuesName) :
    wordOperator? word (' ' :: (name ++ ' ' :: rest)) = none := by
  rw [wordOperator?, token?, skipSpace_variable isVariable]
  split
  next next left read =>
    obtain ⟨more, rfl, same⟩ := exactly?_append (List.all_eq_true.mp letters) read
    cases more with
    | nil =>
        rw [List.append_nil, IsVariable, String.ofList_toList] at isVariable
        exact absurd reserved isVariable.2.2
    | cons character more =>
        cases same
        have continues : continuesName next = true :=
          List.all_eq_true.mp isVariable.2.1 next
            (List.mem_append_right _ List.mem_cons_self)
        rw [isSpace_of_continuesName continues]
        rfl
  next => rfl

theorem call?_variable (fuel : Nat) : call? fuel (name ++ blankClosing rest) = none := by
  cases fuel with
  | zero => rfl
  | succ fuel =>
      rw [call?, blankClosing, plainName?_variable isVariable, Option.bind_eq_bind, Option.bind_some]
      cases fuel <;> rfl

theorem integer?_variable : integer? (name ++ rest) = none := by
  obtain ⟨first, others, rfl, starts, _⟩ := exists_cons_of_isVariable isVariable
  have notSign := ne_of_startsName starts (show startsName '-' = false from rfl)
  have notZero := ne_of_startsName starts (show startsName '0' = false from rfl)
  simp [integer?, notSign, notZero, isDecimal_of_startsName starts]

theorem quotedText?_variable : quotedText? (name ++ rest) = none := by
  obtain ⟨first, others, rfl, starts, _⟩ := exists_cons_of_isVariable isVariable
  have double := ne_of_startsName starts (show startsName '"' = false from rfl)
  have single := ne_of_startsName starts (show startsName '\'' = false from rfl)
  have back := ne_of_startsName starts (show startsName '`' = false from rfl)
  simp [quotedText?, double, single, back]

theorem flag?_variable : flag? (name ++ ' ' :: rest) = none := by
  have other {word : String} {left : List Char} (reserved : word ∈ reservedWords) :
      some (String.ofList name, ' ' :: rest) ≠ some (word, left) := by
    intro same
    cases same
    exact isVariable.2.2 reserved
  rw [flag?, plainName?_variable isVariable]
  split
  next same => exact absurd same (other (by decide))
  next same => exact absurd same (other (by decide))
  next same => exact absurd same (other (by decide))
  next same => exact absurd same (other (by decide))
  next => rfl

theorem part?_variable (fuel : Nat) :
    part? (fuel + 1) (' ' :: (name ++ blankClosing rest)) =
      some (.named (String.ofList name), blankClosing rest) := by
  rw [part?, skipSpace_variable isVariable, call?_variable isVariable,
    integer?_variable isVariable, quotedText?_variable isVariable]
  dsimp only
  rw [blankClosing, dottedName?_variable isVariable]
  rfl

theorem joined?_variable (fuel : Nat) :
    joined? (fuel + 2) (' ' :: (name ++ blankClosing rest)) = none := by
  rw [joined?, part?_variable isVariable]
  rfl

theorem term?_variable (fuel : Nat) :
    term? (fuel + 1) (' ' :: (name ++ blankClosing rest)) =
      some (.named (String.ofList name), blankClosing rest) := by
  obtain ⟨first, others, rfl, starts, _⟩ := exists_cons_of_isVariable isVariable
  have notOpen := ne_of_startsName starts (show startsName '(' = false from rfl)
  rw [term?, skipSpace_variable isVariable]
  dsimp only
  split
  next same => cases same; exact absurd rfl notOpen
  next =>
    rw [call?_variable isVariable, blankClosing, dottedName?_variable isVariable,
      flag?_variable isVariable]
    rfl

theorem sum?_variable (fuel : Nat) :
    sum? (fuel + 2) (' ' :: (name ++ blankClosing rest)) =
      some (.named (String.ofList name), blankClosing rest) := by
  rw [sum?, term?_variable isVariable]
  rfl

theorem filtered?_variable (fuel : Nat) :
    filtered? (fuel + 3) (' ' :: (name ++ blankClosing rest)) =
      some (.named (String.ofList name), blankClosing rest) := by
  rw [filtered?, joined?_variable isVariable, sum?_variable isVariable]
  rfl

theorem comparison?_variable (fuel : Nat) :
    comparison? (fuel + 4) (' ' :: (name ++ blankClosing rest)) =
      some (.named (String.ofList name), blankClosing rest) := by
  rw [comparison?, filtered?_variable isVariable]
  rfl

theorem negatable?_variable (fuel : Nat) :
    negatable? (fuel + 5) (' ' :: (name ++ blankClosing rest)) =
      some (.named (String.ofList name), blankClosing rest) := by
  have noOperator : wordOperator? "not" (' ' :: (name ++ blankClosing rest)) = none :=
    wordOperator?_variable isVariable _ (by decide) (by decide)
  rw [negatable?, noOperator, comparison?_variable isVariable]
  rfl

theorem conjunction?_variable (fuel : Nat) :
    conjunction? (fuel + 6) (' ' :: (name ++ blankClosing rest)) =
      some (.named (String.ofList name), blankClosing rest) := by
  rw [conjunction?, negatable?_variable isVariable]
  rfl

theorem condition?_variable (fuel : Nat) :
    condition? (fuel + 7) (' ' :: (name ++ blankClosing rest)) =
      some (.named (String.ofList name), blankClosing rest) := by
  rw [condition?, conjunction?_variable isVariable]
  rfl

/-- A variable between blanks is read up to the closing braces. -/
theorem expression?_variable :
    expression? (' ' :: (name ++ blankClosing rest)) =
      some (.named (String.ofList name), blankClosing rest) := by
  have fuel : fuelFor (' ' :: (name ++ blankClosing rest)) =
      (16 * (name ++ blankClosing rest).length + 25) + 7 := by
    rw [fuelFor, List.length_cons]
    omega
  rw [expression?, fuel, condition?_variable isVariable]

end Variable

end Template
end OpenApiTypes
