import OpenApiTypes.Json.Basic

namespace OpenApiTypes
namespace Toml

/-!
# Numbers and times of TOML text

Whole numbers have 64 bits.  A time is checked field by field and kept as it is
written, because settings have no use for it.
-/

/-- A scalar that is no string and no truth value. -/
inductive Scalar where
  | integer (value : Int)
  | real (value : Json.Binary64)
  /-- A number that is not finite. -/
  | unbounded
  /-- A date, a time, or both. -/
  | time (text : String)
deriving DecidableEq, Inhabited

/-! ## Digits -/

/-- Read digits that single underscores may separate; they are given without the
underscores. -/
def digitsFrom (isDigit : Char -> Bool) : List Char -> List Char × List Char
  | '_' :: character :: rest =>
      if isDigit character then
        let (digits, left) := digitsFrom isDigit rest
        (character :: digits, left)
      else ([], '_' :: character :: rest)
  | character :: rest =>
      if isDigit character then
        let (digits, left) := digitsFrom isDigit rest
        (character :: digits, left)
      else ([], character :: rest)
  | [] => ([], [])

/-- Read at least one digit, and more that single underscores may separate. -/
def digits? (isDigit : Char -> Bool) (characters : List Char) :
    Option (List Char × List Char) :=
  match characters with
  | first :: _ => if isDigit first then some (digitsFrom isDigit characters) else none
  | [] => none

/-- The value of a digit. -/
def digitValue (digit : Char) : Nat :=
  let code := digit.toNat
  if code < 58 then code - 48 else if code < 91 then code - 55 else code - 87

/-- The value of digits in some base. -/
def digitsValue (base : Nat) (digits : List Char) : Nat :=
  digits.foldl (fun value digit => base * value + digitValue digit) 0

/-- A hexadecimal digit. -/
def isHexDigit (character : Char) : Bool :=
  character.isDigit || ('a' <= character && character <= 'f') ||
    ('A' <= character && character <= 'F')

/-- An octal digit. -/
def isOctalDigit (character : Char) : Bool :=
  '0' <= character && character <= '7'

/-- A binary digit. -/
def isBinaryDigit (character : Char) : Bool :=
  character == '0' || character == '1'

/-! ## Numbers -/

/-- Split a sign off. -/
def splitSign (characters : List Char) : Bool × List Char :=
  match characters with
  | '-' :: rest => (true, rest)
  | '+' :: rest => (false, rest)
  | _ => (false, characters)

/-- A whole number of 64 bits. -/
def integer? (value : Int) : Option Scalar :=
  if Json.fitsSigned value then some (.integer value) else none

/-- Read a whole number in a base other than ten. -/
def based? (base : Nat) (isDigit : Char -> Bool) (characters : List Char) :
    Option (Scalar × List Char) := do
  let (digits, rest) <- digits? isDigit characters
  let value <- integer? (digitsValue base digits : Int)
  pure (value, rest)

/-- Read decimal digits without a leading zero. -/
def decimal? (characters : List Char) : Option (List Char × List Char) :=
  match characters with
  | '0' :: rest => some (['0'], rest)
  | _ => digits? Char.isDigit characters

/-- Read an exponent: its value, and whether there is one. -/
def exponent? (characters : List Char) : Option (Option Int × List Char) :=
  match characters with
  | mark :: rest =>
      if mark == 'e' || mark == 'E' then do
        let (negative, unsigned) := splitSign rest
        let (digits, left) <- digits? Char.isDigit unsigned
        let magnitude : Int := (digitsValue 10 digits : Int)
        pure (some (if negative then -magnitude else magnitude), left)
      else some (none, characters)
  | [] => some (none, [])

/-- A number with a point or an exponent.  Only below zero may it be out of range. -/
def real? (negative : Bool) (digits : List Char) (exponent : Int) : Option Scalar :=
  match Json.Binary64.ofDecimal negative (digitsValue 10 digits) exponent with
  | some value => some (.real value)
  | none => if negative then some .unbounded else none

/-- Read a number. -/
def number? (characters : List Char) : Option (Scalar × List Char) :=
  match characters with
  | '0' :: 'x' :: rest => based? 16 isHexDigit rest
  | '0' :: 'o' :: rest => based? 8 isOctalDigit rest
  | '0' :: 'b' :: rest => based? 2 isBinaryDigit rest
  | _ => do
      let (negative, unsigned) := splitSign characters
      match unsigned with
      | 'i' :: 'n' :: 'f' :: rest => pure (.unbounded, rest)
      | 'n' :: 'a' :: 'n' :: rest => pure (.unbounded, rest)
      | _ => do
          let (whole, afterWhole) <- decimal? unsigned
          let (fraction, afterFraction) <- match afterWhole with
            | '.' :: rest => digits? Char.isDigit rest
            | _ => some ([], afterWhole)
          let (exponent, left) <- exponent? afterFraction
          if fraction.isEmpty && exponent.isNone then do
            let magnitude : Int := (digitsValue 10 whole : Int)
            let value <- integer? (if negative then -magnitude else magnitude)
            pure (value, left)
          else do
            let value <- real? negative (whole ++ fraction)
              (exponent.getD 0 - (fraction.length : Int))
            pure (value, left)

/-! ## Times -/

/-- Read a number of exactly so many digits between two bounds. -/
def fixed? (count least greatest : Nat) (characters : List Char) :
    Option (Nat × List Char) :=
  let digits := characters.take count
  let value := digitsValue 10 digits
  if digits.length = count && digits.all Char.isDigit && least <= value && value <= greatest then
    some (value, characters.drop count)
  else none

/-- Read one character. -/
def mark? (expected : Char) : List Char -> Option (List Char)
  | [] => none
  | character :: rest => if character = expected then some rest else none

/-- The number of days of a month. -/
def daysOf (year month : Nat) : Nat :=
  if month = 2 then
    if year % 4 = 0 && (year % 100 != 0 || year % 400 = 0) then 29 else 28
  else if month = 4 || month = 6 || month = 9 || month = 11 then 30
  else 31

/-- Read a date. -/
def date? (characters : List Char) : Option (List Char) := do
  let (year, afterYear) <- fixed? 4 0 9999 characters
  let (month, afterMonth) <- fixed? 2 1 12 (<- mark? '-' afterYear)
  let (_, rest) <- fixed? 2 1 (daysOf year month) (<- mark? '-' afterMonth)
  pure rest

/-- Read a time of day. -/
def timeOfDay? (characters : List Char) : Option (List Char) := do
  let (_, afterHour) <- fixed? 2 0 23 characters
  let (_, afterMinute) <- fixed? 2 0 59 (<- mark? ':' afterHour)
  let (_, rest) <- fixed? 2 0 60 (<- mark? ':' afterMinute)
  match rest with
  | '.' :: fraction =>
      match fraction.takeWhile Char.isDigit with
      | [] => none
      | _ => some (fraction.dropWhile Char.isDigit)
  | _ => some rest

/-- Read the offset of a time, when there is one. -/
def offset? (characters : List Char) : Option (List Char) :=
  match characters with
  | 'Z' :: rest => some rest
  | 'z' :: rest => some rest
  | sign :: rest =>
      if sign == '+' || sign == '-' then do
        let (_, afterHour) <- fixed? 2 0 23 rest
        let (_, left) <- fixed? 2 0 59 (<- mark? ':' afterHour)
        pure left
      else some characters
  | [] => some []

/-- Read the time of day after a date, when there is one. -/
def afterDate? (characters : List Char) : Option (List Char) :=
  match characters with
  | delimiter :: rest =>
      if delimiter == 'T' || delimiter == 't' || delimiter == ' ' then
        match timeOfDay? rest with
        | some left => offset? left
        | none => if delimiter == ' ' then some characters else none
      else some characters
  | [] => some []

/-- Read a date, a time of day, or both. -/
def time? (characters : List Char) : Option (Scalar × List Char) := do
  let rest <- match date? characters with
    | some left => afterDate? left
    | none => timeOfDay? characters
  pure (.time (String.ofList (characters.take (characters.length - rest.length))), rest)

/-- Read a number or a time. -/
def scalar? (characters : List Char) : Option (Scalar × List Char) :=
  match time? characters with
  | some read => some read
  | none => number? characters

end Toml
end OpenApiTypes
