import OpenApiTypes.Json.Basic
import OpenApiTypes.Proofs.TypeScript.Lexing

namespace OpenApiTypes

/-!
# The text of a number is a numeral

A number is written as a numeral, with a minus sign in front of it when it is negative.
This holds of every layout of a double: in none of them does a zero stand in front of
other digits of the whole part.
-/

/-! ## The shortest digits of a double -/

namespace Json
namespace Binary64

theorem tenTo_pos (exponent : Nat) : 0 < tenTo exponent :=
  Nat.pow_pos (by decide)

theorem twoTo_pos (exponent : Nat) : 0 < twoTo exponent :=
  Nat.pow_pos (by decide)

/-- Zero does not read back to another double. -/
theorem low_neighbourhood_pos {number : Binary64} (nonzero : number.significand ≠ 0) :
    0 < number.neighbourhood.low := by
  refine Nat.mul_pos ?_ (twoTo_pos _)
  split <;> omega

theorem Neighbourhood.ne_zero_of_holds {interval : Neighbourhood} (positive : 0 < interval.low)
    {digits : Nat} {exponent : Int} (holds : interval.holds digits exponent = true) :
    digits ≠ 0 := by
  rintro rfl
  have product : 0 < interval.low * tenTo (-exponent).toNat :=
    Nat.mul_pos positive (tenTo_pos _)
  simp only [Neighbourhood.holds, Nat.zero_mul] at holds
  split at holds <;> rw [Bool.and_eq_true, decide_eq_true_eq] at holds <;> omega

theorem Neighbourhood.ne_zero_of_onGrid {interval : Neighbourhood} (positive : 0 < interval.low)
    {digits : Nat} {exponent : Int} (onGrid : interval.onGrid exponent = some digits) :
    digits ≠ 0 := by
  rw [Neighbourhood.onGrid] at onGrid
  split at onGrid
  next holds => cases onGrid; exact ne_zero_of_holds positive holds
  next =>
    split at onGrid
    next holds => cases onGrid; exact ne_zero_of_holds positive holds
    next =>
      split at onGrid
      next holds => cases onGrid; exact ne_zero_of_holds positive holds
      next => cases onGrid

theorem exponent_shortestFrom {interval : Neighbourhood} (positive : 0 < interval.low)
    (leading : Int) (count fuel : Nat) (zero : (shortestFrom interval leading count fuel).1 = 0) :
    (shortestFrom interval leading count fuel).2 = 0 := by
  induction fuel generalizing count with
  | zero => rfl
  | succ fuel inductionHypothesis =>
      rw [shortestFrom] at zero ⊢
      split at zero
      next digits onGrid => exact absurd zero (Neighbourhood.ne_zero_of_onGrid positive onGrid)
      next => exact inductionHypothesis (count + 1) zero

theorem exponent_dropZeros (fuel digits : Nat) {exponent : Int}
    (normal : digits = 0 -> exponent = 0) (zero : (dropZeros fuel digits exponent).1 = 0) :
    (dropZeros fuel digits exponent).2 = 0 := by
  induction fuel generalizing digits exponent with
  | zero => exact normal zero
  | succ fuel inductionHypothesis =>
      rw [dropZeros] at zero ⊢
      split at zero
      next drops =>
        rw [if_pos drops]
        rw [Bool.and_eq_true, decide_eq_true_eq, bne_iff_ne] at drops
        exact inductionHypothesis (digits / 10) (by omega) zero
      next keeps =>
        rw [if_neg keeps]
        exact normal zero

/-- Where the shortest digits are a zero, nothing is to be put behind them. -/
theorem exponent_shortest {number : Binary64} (nonzero : number.significand ≠ 0)
    (zero : number.shortest.1 = 0) : number.shortest.2 = 0 :=
  exponent_dropZeros 20 _
    (exponent_shortestFrom (low_neighbourhood_pos nonzero) _ 0 18) zero

end Binary64
end Json

namespace TypeScript

/-! ## Runs of digits -/

namespace NumeralPart

/-- The parts that any number of digits may follow. -/
def takesDigits : NumeralPart -> Bool
  | .whole | .fraction | .exponent => true
  | .zero | .mark | .sign => false

theorem next?_of_takesDigits {part : NumeralPart} (takes : part.takesDigits) {digit : Char}
    (isDigit : Naming.isDigit digit = true) : part.next? digit = some part := by
  cases part with
  | whole | fraction | exponent => exact if_pos isDigit
  | zero | mark | sign => cases takes

theorem after?_of_takesDigits {part : NumeralPart} (takes : part.takesDigits)
    {digits : List Char} (all : ∀ digit ∈ digits, Naming.isDigit digit = true) :
    part.after? digits = some part := by
  induction digits with
  | nil => rfl
  | cons digit digits inductionHypothesis =>
      rw [List.forall_mem_cons] at all
      rw [after?, List.foldlM_cons, next?_of_takesDigits takes all.1]
      exact inductionHypothesis all.2

end NumeralPart

/-! ## Decimal digits -/

theorem isDigit_of_mem_toDigits {number : Nat} {digit : Char}
    (member : digit ∈ Nat.toDigits 10 number) : Naming.isDigit digit = true := by
  have isDigit := Nat.isDigit_of_mem_toDigits (by decide) (by decide) member
  rw [Char.isDigit_iff_toNat] at isDigit
  exact (Naming.isDigit_iff digit).mpr isDigit

theorem isDigit_of_toDigits_eq {number : Nat} {digits : List Char}
    (same : Nat.toDigits 10 number = digits) :
    ∀ digit ∈ digits, Naming.isDigit digit = true := by
  subst same
  intro digit
  exact isDigit_of_mem_toDigits

theorem toDigits_ne_nil (number : Nat) : Nat.toDigits 10 number ≠ [] :=
  List.ne_nil_of_length_pos Nat.length_toDigits_pos

/-- The digits of a positive number do not begin with a zero. -/
theorem head?_toDigits_ne {number : Nat} (positive : number ≠ 0) :
    (Nat.toDigits 10 number).head? ≠ some '0' := by
  -- The last digit stands behind the digits of the tenth part.
  induction number using Nat.strongRecOn with
  | ind number inductionHypothesis =>
      rw [Nat.toDigits_eq_if (by decide)]
      split
      next small =>
        have every : ∀ digit < 10, digit ≠ 0 -> some (Nat.digitChar digit) ≠ some '0' := by
          decide
        exact every number small positive
      next large =>
        rw [List.head?_append_of_ne_nil _ (toDigits_ne_nil _)]
        exact inductionHypothesis (number / 10) (by omega) (by omega)

/-- Digits that do not begin with a zero are a whole number. -/
theorem numeralPart?_eq_whole {digits : List Char} (filled : digits ≠ [])
    (all : ∀ digit ∈ digits, Naming.isDigit digit = true) (head : digits.head? ≠ some '0') :
    numeralPart? digits = some .whole := by
  cases digits with
  | nil => exact absurd rfl filled
  | cons digit digits =>
      rw [List.forall_mem_cons] at all
      have notZero : digit ≠ '0' := by
        rintro rfl
        exact head rfl
      rw [numeralPart?, if_pos all.1, NumeralPart.first, if_neg notZero]
      exact NumeralPart.after?_of_takesDigits rfl all.2

/-- Where a numeral is carried on. -/
theorem numeralPart?_append {characters : List Char} {part : NumeralPart}
    (reads : numeralPart? characters = some part) (more : List Char) :
    numeralPart? (characters ++ more) = part.after? more := by
  cases characters with
  | nil => cases reads
  | cons digit characters =>
      rw [numeralPart?, Option.ite_none_right_eq_some] at reads
      rw [List.cons_append, numeralPart?, if_pos reads.1, NumeralPart.after?_append, reads.2,
        Option.bind_some]

theorem isNumeral_repr (number : Nat) : IsNumeral (Nat.repr number) := by
  rw [IsNumeral, Nat.toList_repr]
  by_cases zero : number = 0
  · subst zero
    exact ⟨.zero, rfl, rfl⟩
  · exact ⟨.whole, numeralPart?_eq_whole (toDigits_ne_nil number)
      (fun _ => isDigit_of_mem_toDigits) (head?_toDigits_ne zero), rfl⟩

/-! ## Layouts of doubles -/

theorem isDigit_of_mem_zeros {count : Nat} {digit : Char}
    (member : digit ∈ (Json.Binary64.zeros count).toList) : Naming.isDigit digit = true := by
  rw [Json.Binary64.zeros, String.toList_ofList] at member
  rw [List.eq_of_mem_replicate member]
  rfl

/-- All digits in front of the point. -/
theorem isNumeral_wholeLayout {digits count : Nat} (normal : digits = 0 -> count = 0) :
    IsNumeral (String.ofList (Nat.toDigits 10 digits) ++ Json.Binary64.zeros count ++ ".0") := by
  by_cases zero : digits = 0
  · rw [zero, normal zero]
    exact ⟨.fraction, rfl, rfl⟩
  · have reads : numeralPart? (Nat.toDigits 10 digits) = some .whole :=
      numeralPart?_eq_whole (toDigits_ne_nil digits) (fun _ => isDigit_of_mem_toDigits)
        (head?_toDigits_ne zero)
    refine ⟨.fraction, ?_, rfl⟩
    rw [Option.mem_def, String.toList_append, String.toList_append, String.toList_ofList,
      List.append_assoc, numeralPart?_append reads, NumeralPart.after?_append,
      NumeralPart.after?_of_takesDigits rfl fun _ => isDigit_of_mem_zeros]
    rfl

/-- The point among the digits. -/
theorem isNumeral_pointLayout {digits place : Nat} (nonzero : digits ≠ 0) (inside : place ≠ 0) :
    IsNumeral (String.ofList ((Nat.toDigits 10 digits).take place) ++ "." ++
      String.ofList ((Nat.toDigits 10 digits).drop place)) := by
  have filled : (Nat.toDigits 10 digits).take place ≠ [] := by
    rw [Ne, List.take_eq_nil_iff, not_or]
    exact ⟨inside, toDigits_ne_nil digits⟩
  have head : ((Nat.toDigits 10 digits).take place).head? ≠ some '0' := by
    rw [List.head?_take, if_neg inside]
    exact head?_toDigits_ne nonzero
  have reads : numeralPart? ((Nat.toDigits 10 digits).take place) = some .whole :=
    numeralPart?_eq_whole filled
      (fun _ member => isDigit_of_mem_toDigits (List.mem_of_mem_take member)) head
  have point : ".".toList = ['.'] := rfl
  refine ⟨.fraction, ?_, rfl⟩
  rw [Option.mem_def, String.toList_append, String.toList_append, point, String.toList_ofList,
    String.toList_ofList, List.append_assoc, numeralPart?_append reads]
  exact NumeralPart.after?_of_takesDigits rfl
    (fun _ member => isDigit_of_mem_toDigits (List.mem_of_mem_drop member))

/-- All digits behind the point. -/
theorem isNumeral_fractionLayout (digits count : Nat) :
    IsNumeral ("0." ++ Json.Binary64.zeros count ++ String.ofList (Nat.toDigits 10 digits)) := by
  have reads : numeralPart? "0.".toList = some .fraction := rfl
  refine ⟨.fraction, ?_, rfl⟩
  rw [Option.mem_def, String.toList_append, String.toList_append, List.append_assoc,
    numeralPart?_append reads, NumeralPart.after?_append,
    NumeralPart.after?_of_takesDigits rfl fun _ => isDigit_of_mem_zeros,
    String.toList_ofList]
  exact NumeralPart.after?_of_takesDigits rfl fun _ => isDigit_of_mem_toDigits

theorem numeralPart?_singleton {digit : Char} (isDigit : Naming.isDigit digit = true) :
    numeralPart? (String.singleton digit).toList = some (NumeralPart.first digit) := by
  rw [String.toList_singleton, numeralPart?, if_pos isDigit]
  rfl

theorem numeralPart?_mantissa {digit : Char} {rest : List Char}
    (all : ∀ each ∈ digit :: rest, Naming.isDigit each = true) :
    numeralPart? (String.singleton digit ++ "." ++ String.ofList rest).toList =
      some .fraction := by
  rw [List.forall_mem_cons] at all
  have point : (NumeralPart.first digit).after? ".".toList = some .fraction := by
    rw [NumeralPart.first]
    split <;> rfl
  rw [String.toList_append, String.toList_append, List.append_assoc,
    numeralPart?_append (numeralPart?_singleton all.1), NumeralPart.after?_append, point,
    String.toList_ofList]
  exact NumeralPart.after?_of_takesDigits rfl all.2

theorem NumeralPart.next?_first_mark (digit : Char) :
    (NumeralPart.first digit).next? 'e' = some .mark := by
  rw [NumeralPart.first]
  split <;> rfl

theorem plus_or_minus (positive : Prop) [Decidable positive] :
    (if positive then "+" else "-") = "+" ∨ (if positive then "+" else "-") = "-" := by
  split
  · exact Or.inl rfl
  · exact Or.inr rfl

/-- An exponent behind a mantissa. -/
theorem isNumeral_exponentLayout {mantissa sign : String} {part : NumeralPart}
    (reads : numeralPart? mantissa.toList = some part) (marked : part.next? 'e' = some .mark)
    (signed : sign = "+" ∨ sign = "-") (power : Nat) :
    IsNumeral (mantissa ++ "e" ++ sign ++ toString power) := by
  have mark : part.after? "e".toList = some .mark := by
    rw [NumeralPart.after?]
    exact congrArg (Option.bind · some) marked
  have plusOrMinus : NumeralPart.mark.after? sign.toList = some .sign := by
    rcases signed with rfl | rfl <;> rfl
  have shown : NumeralPart.sign.after? (toString power).toList = some .exponent := by
    rw [Nat.toString_eq_repr, Nat.toList_repr]
    cases digits : Nat.toDigits 10 power with
    | nil => exact absurd digits (toDigits_ne_nil power)
    | cons digit others =>
        have all := List.forall_mem_cons.mp (isDigit_of_toDigits_eq digits)
        rw [NumeralPart.after?, List.foldlM_cons, NumeralPart.next?, if_pos all.1]
        exact NumeralPart.after?_of_takesDigits rfl all.2
  refine ⟨.exponent, ?_, rfl⟩
  rw [Option.mem_def, String.toList_append, String.toList_append, String.toList_append,
    List.append_assoc, List.append_assoc, numeralPart?_append reads, NumeralPart.after?_append,
    mark, Option.bind_some, NumeralPart.after?_append, plusOrMinus, Option.bind_some, shown]

/-- A number is written as a numeral, signed or not. -/
def IsSignedNumeral (text : String) : Prop :=
  Exists fun digits : String => IsNumeral digits ∧ (text = digits ∨ text = "-" ++ digits)

theorem IsNumeral.signed {digits : String} (numeral : IsNumeral digits) (negative : Bool) :
    IsSignedNumeral ((if negative then "-" else "") ++ digits) := by
  refine ⟨digits, numeral, ?_⟩
  cases negative with
  | true => exact Or.inr rfl
  | false => exact Or.inl String.empty_append

theorem isSignedNumeral_real (number : Json.Binary64) : IsSignedNumeral number.text := by
  rw [Json.Binary64.text]
  dsimp only
  split
  next => exact IsNumeral.signed ⟨.fraction, rfl, rfl⟩ number.negative
  next nonzero =>
    have normal := Json.Binary64.exponent_shortest nonzero
    refine IsNumeral.signed ?_ number.negative
    -- The layouts in the order in which they are tried.
    split
    next =>
      refine isNumeral_wholeLayout ?_
      intro zero
      rw [normal zero]
      rfl
    next notWhole =>
      split
      next point =>
        rw [Bool.and_eq_true, decide_eq_true_eq] at point
        -- A single zero has been laid out before.
        refine isNumeral_pointLayout ?_ (by omega)
        intro zero
        rw [zero, normal zero] at notWhole
        exact notWhole rfl
      next =>
        split
        next => exact isNumeral_fractionLayout _ _
        next =>
          split
          next none => exact absurd none (toDigits_ne_nil _)
          next digit one =>
            have isDigit := isDigit_of_toDigits_eq one digit (List.mem_singleton_self digit)
            exact isNumeral_exponentLayout (numeralPart?_singleton isDigit)
              (NumeralPart.next?_first_mark digit) (plus_or_minus _) _
          next digit rest _ several =>
            have all := isDigit_of_toDigits_eq several
            exact isNumeral_exponentLayout (numeralPart?_mantissa all) rfl (plus_or_minus _) _

theorem isSignedNumeral_text (number : Json.Number) : IsSignedNumeral number.text := by
  cases number with
  | real value => exact isSignedNumeral_real value
  | integer value =>
      cases value with
      | ofNat value => exact ⟨_, isNumeral_repr value, Or.inl rfl⟩
      | negSucc value => exact ⟨_, isNumeral_repr (value + 1), Or.inr rfl⟩

end TypeScript
end OpenApiTypes
