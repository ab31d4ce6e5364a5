import OpenApiTypes.Proofs.Naming.Quoted

namespace OpenApiTypes
namespace Naming

/-!
# What a key keeps of a parameter

A name that begins with a small letter is cut down to its leading letters, so whatever
follows them is lost.  Every other name is quoted as a whole and can be read back.  The
two kinds of keys never meet, because a bare key begins with a letter and a quoted one
with its quote.
-/

/-- The name begins with a small letter. -/
def StartsSmall (name : String) : Prop :=
  name.toList.head?.any isSmallLetter = true

/-- The letters that a name begins with. -/
def leadingLetters (name : String) : List Char :=
  name.toList.takeWhile isLetter

/-- Two names that begin with a small letter and with the same letters. -/
def SharesLetters (first second : String) : Prop :=
  StartsSmall first ∧ StartsSmall second ∧ leadingLetters first = leadingLetters second

instance (name : String) : Decidable (StartsSmall name) :=
  inferInstanceAs (Decidable (_ = true))

instance (first second : String) : Decidable (SharesLetters first second) :=
  inferInstanceAs (Decidable (_ ∧ _ ∧ _))

theorem isLetter_of_isSmallLetter {character : Char} (small : isSmallLetter character = true) :
    isLetter character = true := by
  rw [isSmallLetter] at small
  rw [isLetter, small, Bool.true_or]

theorem StartsSmall.exists_cons {name : String} (starts : StartsSmall name) :
    ∃ (first : Char) (rest : List Char),
      name.toList = first :: rest ∧ isSmallLetter first = true := by
  unfold StartsSmall at starts
  cases characters : name.toList with
  | nil =>
      rw [characters] at starts
      cases starts
  | cons first rest =>
      rw [characters] at starts
      exact ⟨first, rest, rfl, starts⟩

theorem isSmallLetter_of_not_startsSmall {name : String} (other : ¬ StartsSmall name)
    {first : Char} {rest : List Char} (characters : name.toList = first :: rest) :
    isSmallLetter first = false := by
  unfold StartsSmall at other
  rw [characters] at other
  exact Bool.eq_false_iff.mpr other

/-- A name that begins with a small letter begins with letters. -/
theorem leadingLetters_ne_nil {name : String} (starts : StartsSmall name) :
    leadingLetters name ≠ [] := by
  rcases starts.exists_cons with ⟨first, rest, characters, small⟩
  rw [leadingLetters, characters,
    List.takeWhile_cons_of_pos (isLetter_of_isSmallLetter small)]
  exact List.cons_ne_nil _ _

/-! ## The two kinds of keys -/

/-- A name that begins with a small letter keeps its leading letters. -/
theorem toList_parameterKey_of_startsSmall {name : String} (starts : StartsSmall name) :
    (parameterKey name).toList = leadingLetters name := by
  rcases starts.exists_cons with ⟨first, rest, characters, small⟩
  unfold parameterKey leadingLetters
  simp only [characters, small, if_true, String.toList_ofList, List.takeWhile_cons,
    isLetter_of_isSmallLetter small]

/-- Any other name is quoted. -/
theorem parameterKey_of_not_startsSmall {name : String} (other : ¬ StartsSmall name) :
    parameterKey name = singleQuoted name := by
  unfold parameterKey
  cases characters : name.toList with
  | nil => rfl
  | cons first rest =>
      have notSmall := isSmallLetter_of_not_startsSmall other characters
      simp only [notSmall, Bool.false_eq_true, if_false]

/-- A bare key is no quoted one. -/
private theorem parameterKey_ne_of_startsSmall {bare quoted : String} (starts : StartsSmall bare)
    (other : ¬ StartsSmall quoted) : parameterKey bare ≠ parameterKey quoted := by
  intro same
  have characters := congrArg String.toList same
  rw [toList_parameterKey_of_startsSmall starts, parameterKey_of_not_startsSmall other,
    toList_singleQuoted] at characters
  have letter : isLetter '\'' = true := by
    have member : '\'' ∈ leadingLetters bare := characters ▸ List.mem_cons_self
    exact List.all_eq_true.mp List.all_takeWhile _ member
  revert letter
  decide

/-- Two parameters get the same key exactly when they have the same name, or names that
begin with a small letter and with the same letters. -/
theorem parameterKey_eq_iff (first second : String) :
    parameterKey first = parameterKey second ↔ first = second ∨ SharesLetters first second := by
  constructor
  · intro same
    by_cases firstStarts : StartsSmall first
    · by_cases secondStarts : StartsSmall second
      · right
        refine ⟨firstStarts, secondStarts, ?_⟩
        rw [← toList_parameterKey_of_startsSmall firstStarts, same,
          toList_parameterKey_of_startsSmall secondStarts]
      · exact absurd same (parameterKey_ne_of_startsSmall firstStarts secondStarts)
    · by_cases secondStarts : StartsSmall second
      · exact absurd same.symm (parameterKey_ne_of_startsSmall secondStarts firstStarts)
      · left
        rw [parameterKey_of_not_startsSmall firstStarts,
          parameterKey_of_not_startsSmall secondStarts] at same
        exact singleQuoted_injective same
  · rintro (rfl | ⟨firstStarts, secondStarts, letters⟩)
    · rfl
    · apply String.toList_inj.mp
      rw [toList_parameterKey_of_startsSmall firstStarts,
        toList_parameterKey_of_startsSmall secondStarts, letters]

end Naming
end OpenApiTypes
