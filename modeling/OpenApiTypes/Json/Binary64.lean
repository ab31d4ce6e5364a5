namespace OpenApiTypes
namespace Json

/-!
# Finite double-precision numbers

A finite double is a sign and `significand * 2 ^ exponent`.  Both directions between
decimal text and doubles are exact `Nat` arithmetic: reading rounds a fraction to the
nearest double, a half to the even neighbour, and writing looks for the fewest decimal
digits that read back to the same double.
-/

/-- A power of two. -/
def twoTo (exponent : Nat) : Nat := Nat.pow 2 exponent

/-- A power of ten. -/
def tenTo (exponent : Nat) : Nat := Nat.pow 10 exponent

/-- A finite double-precision number.  The significand has 53 bits, or fewer at the
least exponent. -/
structure Binary64 where
  negative : Bool
  significand : Nat
  exponent : Int
deriving DecidableEq, Inhabited

namespace Binary64

/-- The exponent of the last place of the smallest doubles. -/
def leastExponent : Int := -1074

/-- The exponent of the last place of the largest doubles. -/
def greatestExponent : Int := 971

/-! ## Reading -/

/-- Divide and round to the nearest integer, a half to the even one. -/
def roundDiv (numerator denominator : Nat) : Nat :=
  let quotient := numerator / denominator
  let twice := 2 * (numerator % denominator)
  if twice > denominator || (twice == denominator && quotient % 2 == 1) then quotient + 1
  else quotient

/-- The fraction `numerator / denominator / 2 ^ exponent`, rounded. -/
def scaledRound (numerator denominator : Nat) (exponent : Int) : Nat :=
  if exponent >= 0 then roundDiv numerator (denominator * twoTo exponent.toNat)
  else roundDiv (numerator * twoTo (-exponent).toNat) denominator

/-- The double nearest to a positive fraction; none when the fraction is too large.
The first guess of the exponent is at most one too small. -/
def ofFraction (negative : Bool) (numerator denominator : Nat) : Option Binary64 :=
  if numerator = 0 then some ⟨negative, 0, leastExponent⟩
  else
    let guess : Int := (Nat.log2 numerator : Int) - (Nat.log2 denominator : Int) - 53
    let first := max guess leastExponent
    let coarse :=
      if scaledRound numerator denominator first >= twoTo 53 then first + 1 else first
    let exponent :=
      if scaledRound numerator denominator coarse >= twoTo 53 then coarse + 1 else coarse
    let significand := scaledRound numerator denominator exponent
    if exponent > greatestExponent then none else some ⟨negative, significand, exponent⟩

/-- The double nearest to `digits * 10 ^ exponent`; none when that is too large.
Exponents far outside the range of doubles are settled without raising ten to them. -/
def ofDecimal (negative : Bool) (digits : Nat) (exponent : Int) : Option Binary64 :=
  let magnitude : Int := exponent + ((Nat.toDigits 10 digits).length : Int)
  if digits = 0 then some ⟨negative, 0, leastExponent⟩
  else if magnitude > 400 then none
  else if magnitude < -400 then some ⟨negative, 0, leastExponent⟩
  else if exponent >= 0 then ofFraction negative (digits * tenTo exponent.toNat) 1
  else ofFraction negative digits (tenTo (-exponent).toNat)

/-! ## Shortest digits -/

/-- The numbers that read back to a double, as numerators over one denominator.
Numerators count quarters of the last place. -/
structure Neighbourhood where
  low : Nat
  value : Nat
  high : Nat
  denominator : Nat
  /-- Whether the ends themselves read back. -/
  closed : Bool

/-- The interval around a non-zero double.  Below a power of two the next double is
only half as far away. -/
def neighbourhood (number : Binary64) : Neighbourhood :=
  let narrow := number.significand == twoTo 52 && number.exponent > leastExponent
  let quarters := 4 * number.significand
  let scale : Int := number.exponent - 2
  let up := twoTo scale.toNat
  ⟨(quarters - (if narrow then 1 else 2)) * up, quarters * up, (quarters + 2) * up,
    twoTo (-scale).toNat, number.significand % 2 == 0⟩

/-- Whether `digits * 10 ^ exponent` reads back. -/
def Neighbourhood.holds (interval : Neighbourhood) (digits : Nat) (exponent : Int) : Bool :=
  let point := digits * tenTo exponent.toNat * interval.denominator
  let unit := tenTo (-exponent).toNat
  if interval.closed then interval.low * unit <= point && point <= interval.high * unit
  else interval.low * unit < point && point < interval.high * unit

/-- Of the two neighbours of the value on a decimal grid, the one that reads back; of
two, the nearer, and of two at the same distance the even one. -/
def Neighbourhood.onGrid (interval : Neighbourhood) (exponent : Int) : Option Nat :=
  let numerator := interval.value * tenTo (-exponent).toNat
  let denominator := interval.denominator * tenTo exponent.toNat
  let below := numerator / denominator
  let nearest := roundDiv numerator denominator
  if interval.holds nearest exponent then some nearest
  else if interval.holds below exponent then some below
  else if interval.holds (below + 1) exponent then some (below + 1)
  else none

/-- The decimal exponent of the leading digit of a positive fraction. -/
def leadingExponent (numerator denominator : Nat) : Int :=
  if numerator >= denominator then
    ((Nat.toDigits 10 (numerator / denominator)).length : Int) - 1
  else
    let whole := (denominator + numerator - 1) / numerator
    0 - ((Nat.toDigits 10 (whole - 1)).length : Int)

/-- Try one digit more at a time; seventeen digits always read back. -/
def shortestFrom (interval : Neighbourhood) (leading : Int) : Nat -> Nat -> Nat × Int
  | _, 0 => (interval.value / interval.denominator, 0)
  | count, fuel + 1 =>
      let exponent := leading - (count : Int)
      match interval.onGrid exponent with
      | some digits => (digits, exponent)
      | none => shortestFrom interval leading (count + 1) fuel

/-- Move trailing zeros of the digits into the exponent. -/
def dropZeros : Nat -> Nat -> Int -> Nat × Int
  | 0, digits, exponent => (digits, exponent)
  | fuel + 1, digits, exponent =>
      if digits % 10 = 0 && digits != 0 then dropZeros fuel (digits / 10) (exponent + 1)
      else (digits, exponent)

/-- The fewest digits, with the exponent of the last one, that read back. -/
def shortest (number : Binary64) : Nat × Int :=
  let interval := number.neighbourhood
  let (digits, exponent) :=
    shortestFrom interval (leadingExponent interval.value interval.denominator) 0 18
  dropZeros 20 digits exponent

/-! ## Written form -/

/-- Where positional notation starts and ends, counted by the place of the point
relative to the first digit. -/
structure NumberFormat where
  leastPoint : Int
  greatestPoint : Int

/-- Numbers are positional from `0.00001` up to sixteen digits before the point, and
always show a point or an exponent. -/
def format : NumberFormat := ⟨-4, 16⟩

/-- A run of zeros. -/
def zeros (count : Nat) : String := String.ofList (List.replicate count '0')

/-- The written form of a double. -/
def text (number : Binary64) : String :=
  let sign := if number.negative then "-" else ""
  if number.significand = 0 then sign ++ "0.0"
  else
    let (digits, exponent) := number.shortest
    let shown := Nat.toDigits 10 digits
    let point : Int := (shown.length : Int) + exponent
    sign ++
      if exponent >= 0 && point <= format.greatestPoint then
        String.ofList shown ++ zeros exponent.toNat ++ ".0"
      else if point > 0 && point <= format.greatestPoint then
        String.ofList (shown.take point.toNat) ++ "." ++ String.ofList (shown.drop point.toNat)
      else if point <= 0 && point >= format.leastPoint then
        "0." ++ zeros (-point).toNat ++ String.ofList shown
      else
        let mantissa := match shown with
          | [] => ""
          | [digit] => String.singleton digit
          | digit :: rest => String.singleton digit ++ "." ++ String.ofList rest
        let power := point - 1
        mantissa ++ "e" ++ (if power >= 0 then "+" else "-") ++ toString power.natAbs

end Binary64

end Json
end OpenApiTypes
