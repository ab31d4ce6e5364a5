import OpenApiTypes.Template.Expr

namespace OpenApiTypes
namespace Template

/-!
# Reading expressions

A reader takes characters and gives what it read with the characters that are left, or
nothing.  Blanks may stand between the tokens of an expression.  An alternative that
does not fit leaves the characters to the next one, and an operator without an operand
after it is left unread.  Nested expressions use up characters, so their number bounds
the nesting; that number is the fuel.
-/

/-- Blanks between tokens. -/
def isSpace (character : Char) : Bool :=
  character == ' ' || character == '\t' || character == '\r' || character == '\n'

/-- Skip blanks. -/
def skipSpace (characters : List Char) : List Char :=
  characters.dropWhile isSpace

/-- Read an exact text. -/
def exactly? : List Char -> List Char -> Option (List Char)
  | [], rest => some rest
  | expected :: more, character :: rest =>
      if expected = character then exactly? more rest else none
  | _ :: _, [] => none

/-- Read an exact text after blanks. -/
def token? (expected : String) (characters : List Char) : Option (List Char) :=
  exactly? expected.toList (skipSpace characters)

/-- Read a word operator, which a blank must follow. -/
def wordOperator? (expected : String) (characters : List Char) : Option (List Char) :=
  match token? expected characters with
  | some (next :: rest) => if isSpace next then some rest else none
  | _ => none

/-- A letter or an underscore. -/
def startsName (character : Char) : Bool :=
  ('a' <= character && character <= 'z') || ('A' <= character && character <= 'Z') ||
    character == '_'

/-- A decimal digit. -/
def isDecimal (character : Char) : Bool :=
  '0' <= character && character <= '9'

/-- A character of a name. -/
def continuesName (character : Char) : Bool :=
  startsName character || isDecimal character

/-- Read a name. -/
def plainName? (characters : List Char) : Option (String × List Char) :=
  match characters with
  | [] => none
  | first :: rest =>
      if startsName first then
        some (String.ofList (first :: rest.takeWhile continuesName),
          rest.dropWhile continuesName)
      else none

/-- Read the dotted parts after a name. -/
def dottedRest : Nat -> List Char -> List Char × List Char
  | 0, characters => ([], characters)
  | fuel + 1, '.' :: rest =>
      match rest.takeWhile continuesName with
      | [] => ([], '.' :: rest)
      | part =>
          let (more, left) := dottedRest fuel (rest.dropWhile continuesName)
          ('.' :: part ++ more, left)
  | _, characters => ([], characters)

/-- Read a dotted name. -/
def dottedName? (characters : List Char) : Option (String × List Char) := do
  let (first, rest) <- plainName? characters
  let (more, left) := dottedRest rest.length rest
  pure (first ++ String.ofList more, left)

/-- Read a text between quotes; it has no escapes. -/
def quotedText? (characters : List Char) : Option (String × List Char) :=
  match characters with
  | [] => none
  | quote :: rest =>
      if quote == '"' || quote == '\'' || quote == '`' then
        match rest.dropWhile (fun character => character != quote) with
        | [] => none
        | _ :: left =>
            some (String.ofList (rest.takeWhile (fun character => character != quote)), left)
      else none

/-- The value of decimal digits. -/
def decimalValue (digits : List Char) : Nat :=
  digits.foldl (fun value digit => 10 * value + (digit.toNat - 48)) 0

/-- Read an integer without leading zeros. -/
def integer? (characters : List Char) : Option (Int × List Char) :=
  let (negative, digits) := match characters with
    | '-' :: rest => (true, rest)
    | _ => (false, characters)
  match digits with
  | '0' :: rest => some (0, rest)
  | _ =>
      match digits.takeWhile isDecimal with
      | [] => none
      | run =>
          let magnitude : Int := (decimalValue run : Int)
          some (if negative then -magnitude else magnitude, digits.dropWhile isDecimal)

/-- Read a truth value. -/
def flag? (characters : List Char) : Option (Bool × List Char) :=
  match plainName? characters with
  | some ("true", rest) => some (true, rest)
  | some ("True", rest) => some (true, rest)
  | some ("false", rest) => some (false, rest)
  | some ("False", rest) => some (false, rest)
  | _ => none

/-- Read the test after a name: `is` and the name of the test, or `is not`. -/
def testAfter? (subject : String) (characters : List Char) : Option (Expr × List Char) := do
  let rest <- token? "is" characters
  let (negated, named) := match token? "not" rest with
    | some left => (true, left)
    | none => (false, rest)
  let (name, left) <- plainName? (skipSpace named)
  pure (.test subject negated name, left)

mutual

/-- Read a condition: alternatives of conditions that must hold together. -/
def condition? (fuel : Nat) (characters : List Char) : Option (Expr × List Char) :=
  match fuel with
  | 0 => none
  | fuel + 1 => do
      let (first, rest) <- conjunction? fuel characters
      moreAlternatives fuel first rest
termination_by structural fuel

/-- Read further alternatives. -/
def moreAlternatives (fuel : Nat) (left : Expr) (characters : List Char) : Option (Expr × List Char) :=
  match fuel with
  | 0 => none
  | fuel + 1 =>
      match wordOperator? "or" characters with
      | none => some (left, characters)
      | some rest =>
          match conjunction? fuel rest with
          | none => some (left, characters)
          | some (right, after) => moreAlternatives fuel (.either left right) after
termination_by structural fuel

/-- Read conditions that must hold together. -/
def conjunction? (fuel : Nat) (characters : List Char) : Option (Expr × List Char) :=
  match fuel with
  | 0 => none
  | fuel + 1 => do
      let (first, rest) <- negatable? fuel characters
      moreConjuncts fuel first rest
termination_by structural fuel

/-- Read further conditions that must hold. -/
def moreConjuncts (fuel : Nat) (left : Expr) (characters : List Char) : Option (Expr × List Char) :=
  match fuel with
  | 0 => none
  | fuel + 1 =>
      match wordOperator? "and" characters with
      | none => some (left, characters)
      | some rest =>
          match negatable? fuel rest with
          | none => some (left, characters)
          | some (right, after) => moreConjuncts fuel (.both left right) after
termination_by structural fuel

/-- Read a comparison or a condition in parentheses, with `not` or without. -/
def negatable? (fuel : Nat) (characters : List Char) : Option (Expr × List Char) :=
  match fuel with
  | 0 => none
  | fuel + 1 =>
      match wordOperator? "not" characters with
      | some rest => do
          let (inner, after) <- comparison? fuel rest <|> parenthesized? fuel rest
          pure (.negation inner, after)
      | none => comparison? fuel characters <|> parenthesized? fuel characters
termination_by structural fuel

/-- Read a condition in parentheses. -/
def parenthesized? (fuel : Nat) (characters : List Char) : Option (Expr × List Char) :=
  match fuel with
  | 0 => none
  | fuel + 1 => do
      let rest <- token? "(" characters
      let (inner, after) <- condition? fuel rest
      let left <- token? ")" after
      pure (inner, left)
termination_by structural fuel

/-- Read a value, or two values that are compared. -/
def comparison? (fuel : Nat) (characters : List Char) : Option (Expr × List Char) :=
  match fuel with
  | 0 => none
  | fuel + 1 => do
      let (left, rest) <- filtered? fuel characters
      let operator := match token? "==" rest with
        | some after => some (false, after)
        | none => (token? "!=" rest).map (fun after => (true, after))
      match operator with
      | none => pure (left, rest)
      | some (negated, after) =>
          match filtered? fuel after with
          | none => pure (left, rest)
          | some (right, last) => pure (.equal negated left right, last)
termination_by structural fuel

/-- Read a value with its filters. -/
def filtered? (fuel : Nat) (characters : List Char) : Option (Expr × List Char) :=
  match fuel with
  | 0 => none
  | fuel + 1 => do
      let (value, rest) <- joined? fuel characters <|> sum? fuel characters
      match pipeline fuel rest with
      | ([], after) => pure (value, after)
      | (stages, after) => pure (.piped value stages, after)
termination_by structural fuel

/-- Read filters as long as there are some. -/
def pipeline (fuel : Nat) (characters : List Char) :
    List (String × List (String × Expr)) × List Char :=
  match fuel with
  | 0 => ([], characters)
  | fuel + 1 =>
      match token? "|" characters with
      | none => ([], characters)
      | some rest =>
          match plainName? (skipSpace rest) with
          | none => ([], characters)
          | some (name, after) =>
              let (arguments, left) := match argumentList? fuel after with
                | some (arguments, left) => (arguments, left)
                | none => ([], after)
              let (more, last) := pipeline fuel left
              ((name, arguments) :: more, last)
termination_by structural fuel

/-- Read named arguments in parentheses. -/
def argumentList? (fuel : Nat) (characters : List Char) : Option (List (String × Expr) × List Char) :=
  match fuel with
  | 0 => none
  | fuel + 1 => do
      let rest <- token? "(" characters
      match token? ")" rest with
      | some left => pure ([], left)
      | none => argumentsFrom? fuel rest
termination_by structural fuel

/-- Read one argument and those after it; a comma may stand before the end. -/
def argumentsFrom? (fuel : Nat) (characters : List Char) : Option (List (String × Expr) × List Char) :=
  match fuel with
  | 0 => none
  | fuel + 1 => do
      let (name, rest) <- plainName? (skipSpace characters)
      let assigned <- token? "=" rest
      let (value, after) <- condition? fuel assigned
      match token? ")" after with
      | some left => pure ([(name, value)], left)
      | none => do
          let next <- token? "," after
          match token? ")" next with
          | some left => pure ([(name, value)], left)
          | none => do
              let (others, left) <- argumentsFrom? fuel next
              pure ((name, value) :: others, left)
termination_by structural fuel

/-- Read a text, or parts joined to a text. -/
def joined? (fuel : Nat) (characters : List Char) : Option (Expr × List Char) :=
  match fuel with
  | 0 => none
  | fuel + 1 => do
      let (first, rest) <- part? fuel characters
      match moreParts fuel rest with
      | ([], _) =>
          match first with
          | .text value => pure (.text value, rest)
          | _ => none
      | (others, after) => pure (.join (first :: others), after)
termination_by structural fuel

/-- Read further joined parts. -/
def moreParts (fuel : Nat) (characters : List Char) : List Expr × List Char :=
  match fuel with
  | 0 => ([], characters)
  | fuel + 1 =>
      match token? "~" characters with
      | none => ([], characters)
      | some rest =>
          match part? fuel rest with
          | none => ([], characters)
          | some (part, after) =>
              let (others, left) := moreParts fuel after
              (part :: others, left)
termination_by structural fuel

/-- Read what can be joined: a call, an integer, a text or a variable. -/
def part? (fuel : Nat) (characters : List Char) : Option (Expr × List Char) :=
  match fuel with
  | 0 => none
  | fuel + 1 =>
      let start := skipSpace characters
      call? fuel start <|>
        (integer? start).map (fun (value, rest) => (.integer value, rest)) <|>
        (quotedText? start).map (fun (value, rest) => (.text value, rest)) <|>
        (dottedName? start).map (fun (name, rest) => (.named name, rest))
termination_by structural fuel

/-- Read a function call. -/
def call? (fuel : Nat) (characters : List Char) : Option (Expr × List Char) :=
  match fuel with
  | 0 => none
  | fuel + 1 => do
      let (name, rest) <- plainName? characters
      let (arguments, after) <- argumentList? fuel rest
      pure (.call name arguments, after)
termination_by structural fuel

/-- Read a sum. -/
def sum? (fuel : Nat) (characters : List Char) : Option (Expr × List Char) :=
  match fuel with
  | 0 => none
  | fuel + 1 => do
      let (first, rest) <- term? fuel characters
      moreTerms fuel first rest
termination_by structural fuel

/-- Read further terms of a sum. -/
def moreTerms (fuel : Nat) (left : Expr) (characters : List Char) : Option (Expr × List Char) :=
  match fuel with
  | 0 => none
  | fuel + 1 =>
      match token? "+" characters with
      | none => some (left, characters)
      | some rest =>
          match term? fuel rest with
          | none => some (left, characters)
          | some (right, after) => moreTerms fuel (.sum left right) after
termination_by structural fuel

/-- Read a term: a truth value, a test, a call, a variable, an integer, or a sum in
parentheses. -/
def term? (fuel : Nat) (characters : List Char) : Option (Expr × List Char) :=
  match fuel with
  | 0 => none
  | fuel + 1 =>
      let start := skipSpace characters
      match start with
      | '(' :: rest => do
          let (inner, after) <- sum? fuel rest
          let left <- token? ")" after
          pure (inner, left)
      | _ =>
          match flag? start with
          | some (value, rest) => some (.flag value, rest)
          | none =>
              let tested : Option (Expr × List Char) := do
                let (subject, rest) <- dottedName? start
                testAfter? subject rest
              tested <|> call? fuel start <|>
                (dottedName? start).map (fun (name, rest) => (.named name, rest)) <|>
                (integer? start).map (fun (value, rest) => (.integer value, rest))
termination_by structural fuel

end

/-- Enough fuel for the nesting that so many characters allow. -/
def fuelFor (characters : List Char) : Nat :=
  16 * (characters.length + 1)

/-- Read an expression. -/
def expression? (characters : List Char) : Option (Expr × List Char) :=
  condition? (fuelFor characters) characters

end Template
end OpenApiTypes
