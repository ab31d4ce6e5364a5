import OpenApiTypes.Json.Basic

namespace OpenApiTypes
namespace Yaml

/-!
# What plain scalars stand for

A plain scalar is null, a truth value or a number when it is written like one, and a
string otherwise.  A whole number that does not fit in 64 bits is refused unless it is
beyond 128 bits; then it is read like a number with a point.
-/

/-- Whether a text stands for null. -/
def isNull (text : String) : Bool :=
  ["null", "Null", "NULL", "~"].contains text

/-- The truth value that a text stands for. -/
def truth? (text : String) : Option Bool :=
  if ["true", "True", "TRUE"].contains text then some true
  else if ["false", "False", "FALSE"].contains text then some false
  else none

/-! ## Whole numbers -/

/-- The value of a digit in some base. -/
def digitValue? (base : Nat) (character : Char) : Option Nat :=
  let code := character.toNat
  let value :=
    if 48 <= code && code <= 57 then code - 48
    else if 65 <= code && code <= 90 then code - 55
    else if 97 <= code && code <= 122 then code - 87
    else base
  if value < base then some value else none

/-- The value of digits in some base. -/
def digitsValue? (base : Nat) : List Char -> Nat -> Option Nat
  | [], value => some value
  | character :: rest, value =>
      match digitValue? base character with
      | some digit => digitsValue? base rest (base * value + digit)
      | none => none

/-- The value of at least one digit. -/
def number? (base : Nat) (digits : List Char) : Option Nat :=
  if digits.isEmpty then none else digitsValue? base digits 0

/-- Split a sign off; a plus sign is as good as none. -/
def splitSign (characters : List Char) : Bool × List Char :=
  match characters with
  | '-' :: rest => (true, rest)
  | '+' :: rest => (false, rest)
  | _ => (false, characters)

/-- Digits with a leading zero are no number. -/
def isZeroPadded (characters : List Char) : Bool :=
  match (splitSign characters).2 with
  | '0' :: rest => !rest.isEmpty && rest.all Char.isDigit
  | _ => false

/-- The magnitude of a whole number without its sign. -/
def magnitude? (characters : List Char) : Option Nat :=
  match characters with
  | '0' :: 'x' :: digits => number? 16 digits
  | '0' :: 'o' :: digits => number? 8 digits
  | '0' :: 'b' :: digits => number? 2 digits
  | _ => if isZeroPadded characters then none else number? 10 characters

/-- The whole number that a text stands for. -/
def integer? (characters : List Char) : Option Int :=
  let (negative, rest) := splitSign characters
  (magnitude? rest).map (fun magnitude =>
    if negative then -(magnitude : Int) else (magnitude : Int))

/-- Whether a whole number fits in 128 bits. -/
def fitsWide (value : Int) : Bool :=
  -(Json.twoTo 127 : Int) <= value && value < (Json.twoTo 128 : Int)

/-! ## Numbers with a point -/

/-- Read the exponent of a number; nothing may follow it. -/
def exponent? (characters : List Char) : Option Int :=
  match characters with
  | [] => some 0
  | mark :: rest =>
      if mark == 'e' || mark == 'E' then
        let (negative, digits) := splitSign rest
        (number? 10 digits).map (fun magnitude =>
          if negative then -(magnitude : Int) else (magnitude : Int))
      else none

/-- Read a decimal number: digits with a point among them, before them or after them,
and an exponent. -/
def decimal? (negative : Bool) (characters : List Char) : Option Json.Binary64 := do
  let whole := characters.takeWhile Char.isDigit
  let afterWhole := characters.dropWhile Char.isDigit
  let (fraction, afterFraction) := match afterWhole with
    | '.' :: rest => (rest.takeWhile Char.isDigit, rest.dropWhile Char.isDigit)
    | _ => ([], afterWhole)
  let digits <- number? 10 (whole ++ fraction)
  let exponent <- exponent? afterFraction
  Json.Binary64.ofDecimal negative digits (exponent - (fraction.length : Int))

/-- A number that a text stands for: a finite one, or one that JSON cannot express. -/
inductive Real where
  | finite (value : Json.Binary64)
  | other

/-- The number that a text stands for. -/
def real? (text : String) : Option Real :=
  let (negative, rest) := splitSign text.toList
  let name := String.ofList rest
  if [".inf", ".Inf", ".INF"].contains name then some .other
  else if [".nan", ".NaN", ".NAN"].contains text then some .other
  else (decimal? negative rest).map .finite

/-- The JSON value of a number. -/
def Real.json : Real -> Json
  | .finite value => .number (.real value)
  | .other => .null

/-! ## Scalars -/

/-- The value of a whole number; none when it does not fit. -/
def integerValue? (value : Int) : Option Json :=
  if Json.fitsInteger value then some (.number (.integer value)) else none

/-- The value of a plain scalar; none when it is refused. -/
def plainValue? (text : String) : Option Json :=
  if text = "" || isNull text then some .null
  else
    match truth? text with
    | some value => some (.boolean value)
    | none =>
        let characters := text.toList
        let real := if isZeroPadded characters then none else real? text
        let other := (real.map Real.json).getD (.string text)
        match integer? characters with
        | some value => if fitsWide value then integerValue? value else some other
        | none => some other

/-- The namespace of the tags that name a type. -/
def tagNamespace : String := "tag:yaml.org,2002:"

/-- The value of a scalar with a tag; none when the text does not have the type, or when
the tag belongs to an application. -/
def taggedValue? (tag text : String) : Option Json :=
  if tag = tagNamespace ++ "bool" then (truth? text).map .boolean
  else if tag = tagNamespace ++ "int" then (integer? text.toList).bind integerValue?
  else if tag = tagNamespace ++ "float" then (real? text).map Real.json
  else if tag = tagNamespace ++ "null" then if isNull text then some .null else none
  else if tag.startsWith "!" then none
  else some (.string text)

end Yaml
end OpenApiTypes
