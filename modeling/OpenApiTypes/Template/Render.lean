import OpenApiTypes.Template.Expr
import OpenApiTypes.Text.Blank
import OpenApiTypes.Text.Case
import OpenApiTypes.Text.Lines

namespace OpenApiTypes
namespace Template

/-!
# Rendering

Null is written as nothing, and a value is never read as template text again.  Texts are
written as they are, unless the name of the template says that it writes markup: there they
are escaped.  A variable that is not defined cannot be written, but a condition on it merely
fails.
-/

/-- The bindings that a template sees; a later binding of a name hides an earlier one
because it stands in front. -/
abbrev Bindings := List (String × Json)

/-! ## Values -/

/-- The text of a value. -/
def written : Json -> String
  | .null => ""
  | .boolean value => if value then "true" else "false"
  | .number value => value.text
  | .string value => value
  | .array items => "[" ++ String.intercalate ", " (items.map Json.compact) ++ "]"
  | .object _ => "[object]"

/-- Whether a value counts as true. -/
def isTruthy : Json -> Bool
  | .null => false
  | .boolean value => value
  | .number (.integer value) => value != 0
  | .number (.real value) => value.significand != 0
  | .string value => value != ""
  | .array items => !items.isEmpty
  | .object members => !members.isEmpty

/-- Whether two scalars are equal; numbers are equal when their values are. -/
def sameValue (left right : Json) : Bool :=
  match left, right with
  | .null, .null => true
  | .boolean first, .boolean second => first == second
  | .number first, .number second => first == second
  | .string first, .string second => first == second
  | _, _ => false

/-- Whether a value is a number. -/
def isNumber : Json -> Bool
  | .number _ => true
  | _ => false

/-- Look a variable up. -/
def lookup (bindings : Bindings) (name : String) : Except Error Json :=
  match List.lookup name bindings with
  | some value => .ok value
  | none => .error (.unknownVariable name)

/-! ## Filters -/

/-- The arguments of a filter, evaluated. -/
abbrev Arguments := List (String × Json)

/-- A filter that applies to texts. -/
def onText (filter : String) (change : String -> Json) : Json -> Except Error Json
  | .string value => .ok (change value)
  | value => .error (.filterValue filter value)

/-- A text argument of a filter. -/
def textArgument (filter name : String) (arguments : Arguments) : Except Error String :=
  match List.lookup name arguments with
  | some (.string value) => .ok value
  | some value => .error (.filterArgument filter name value)
  | none => .error (.missingArgument filter name)

/-- A number that counts something. -/
def count (number : Nat) : Json := .number (.integer (number : Int))

/-- A text with a capital first letter and small letters after it. -/
def sentenceCase (text : String) : String :=
  match text.toList with
  | [] => ""
  | first :: rest => String.ofList (Text.upperOf first) ++ Text.toLower (String.ofList rest)

/-- The filters by name. -/
def builtInFilters : List (String × (Arguments -> Json -> Except Error Json)) := [
  ("upper", fun _ => onText "upper" (fun text => .string (Text.toUpper text))),
  ("lower", fun _ => onText "lower" (fun text => .string (Text.toLower text))),
  ("capitalize", fun _ => onText "capitalize" (fun text => .string (sentenceCase text))),
  ("trim", fun _ => onText "trim" (fun text => .string (Text.trim text))),
  ("length", fun _ value =>
    match value with
    | .array items => .ok (count items.length)
    | .object members => .ok (count members.length)
    | .string text => .ok (count text.length)
    | _ => .error .noLength),
  ("replace", fun arguments value =>
    match value with
    | .string text => do
        let pattern <- textArgument "replace" "from" arguments
        let replacement <- textArgument "replace" "to" arguments
        pure (.string (String.ofList
          (Text.replaceAll pattern.toList replacement.toList text.toList)))
    | value => .error (.filterValue "replace" value))]

/-- Report an error as that of a filter. -/
def inFilter {Result : Type} (filter : String) (result : Except Error Result) :
    Except Error Result :=
  result.mapError (.filterFailed filter)

/-! ## Expressions -/

/-- Add two integers of 64 bits. -/
def addIntegers (left right : Int) : Except Error Json :=
  let sum := left + right
  if Json.fitsSigned sum then .ok (.number (.integer sum))
  else .error (.outOfBounds left right)

/-- The equality of two values.  A number and a value of another type are neither equal
nor different. -/
def compareValues (negated : Bool) (left right : Json) : Bool :=
  if isNumber left != isNumber right then false
  else if negated then !sameValue left right
  else sameValue left right

/-- Whether an expression looks a variable up and does no more than filter it. -/
def Expr.isLookup : Expr -> Bool
  | .named _ => true
  | .piped (.named _) _ => true
  | .negation (.named _) => true
  | .negation (.piped (.named _) _) => true
  | _ => false

/-- Whether a condition holds, given its value.  Looking a variable up that is not
defined is no error in a condition; the condition fails. -/
def Expr.holds (condition : Expr) (value : Except Error Json) : Except Error Bool :=
  match value with
  | .ok result => .ok (isTruthy result)
  | .error error => if condition.isLookup then .ok false else .error error

/-- An expression as a term of a sum, given its value. -/
def Expr.addend (term : Expr) (value : Except Error Json) : Except Error Int :=
  match term, value with
  | .text content, _ => .error (.textInSum content)
  | .flag truth, _ => .error (.flagInSum truth)
  | _, .error error => .error error
  | _, .ok (.number (.integer number)) => .ok number
  | .named name, .ok _ => .error (.notNumber name)
  | _, .ok _ => .error .notNumeric

/-- An expression as a part of a joined text, given its value. -/
def Expr.joined (part : Expr) (value : Except Error Json) : Except Error String :=
  match value with
  | .error error => .error error
  | .ok (.string content) => .ok content
  | .ok (.number amount) => .ok amount.text
  | .ok _ =>
      match part with
      | .named name => .error (.notJoinable name)
      | _ => .error (.notJoinable "")

/-- The value that filters start from.  A variable that is null or not defined takes the
value of a leading filter for missing values. -/
def startValue (expression : Expr) (value : Except Error Json)
    (fallback : Option (Except Error Json)) : Except Error Json :=
  match expression, fallback with
  | .named _, some instead =>
      match value with
      | .ok .null => instead
      | .ok present => .ok present
      | .error _ => instead
  | _, _ => value

mutual

/-- The value of an expression. -/
def evaluate (bindings : Bindings) (expression : Expr) : Except Error Json :=
  match expression with
  | .text value => .ok (.string value)
  | .integer value => .ok (.number (.integer value))
  | .flag value => .ok (.boolean value)
  | .named name => lookup bindings name
  | .join parts => (joinParts bindings parts).map .string
  | .sum left right => do
      let first <- left.addend (evaluate bindings left)
      let second <- right.addend (evaluate bindings right)
      addIntegers first second
  | .call name _ => .error (.unknownFunction name)
  | .piped value filters => do
      let start <- startValue value (evaluate bindings value) (missingValue bindings filters)
      throughFilters bindings filters start
  | .test subject negated name =>
      if name = "defined" then .ok (.boolean ((lookup bindings subject).isOk != negated))
      else if name = "undefined" then
        .ok (.boolean ((lookup bindings subject).isOk == negated))
      else .error (.unknownTest name)
  | .equal negated left right => do
      let first <- evaluate bindings left
      let second <- evaluate bindings right
      pure (.boolean (compareValues negated first second))
  | .both left right => do
      let first <- left.holds (evaluate bindings left)
      if first then
        let second <- right.holds (evaluate bindings right)
        pure (.boolean second)
      else pure (.boolean false)
  | .either left right => do
      let first <- left.holds (evaluate bindings left)
      if first then pure (.boolean true)
      else
        let second <- right.holds (evaluate bindings right)
        pure (.boolean second)
  | .negation condition =>
      match condition, evaluate bindings condition with
      | _, .ok value => .ok (.boolean (!isTruthy value))
      | .named _, .error _ => .ok (.boolean true)
      | _, .error error => .error error
termination_by structural expression

/-- The joined text of several parts. -/
def joinParts (bindings : Bindings) (parts : List Expr) : Except Error String :=
  match parts with
  | [] => .ok ""
  | part :: rest => do
      let first <- part.joined (evaluate bindings part)
      let others <- joinParts bindings rest
      pure (first ++ others)
termination_by structural parts

/-- The value that a leading filter for missing values provides. -/
def missingValue (bindings : Bindings) (filters : List (String × List (String × Expr))) :
    Option (Except Error Json) :=
  match filters with
  | [] => none
  | (name, arguments) :: _ =>
      if name = "default" then some (defaultValue bindings arguments) else none
termination_by structural filters

/-- The argument named `value`. -/
def defaultValue (bindings : Bindings) (arguments : List (String × Expr)) :
    Except Error Json :=
  match arguments with
  | [] => .error .noDefault
  | (name, value) :: rest =>
      if name = "value" then evaluate bindings value else defaultValue bindings rest
termination_by structural arguments

/-- Pass a value through filters.  The filter for missing values has done its work. -/
def throughFilters (bindings : Bindings)
    (pipeline : List (String × List (String × Expr))) (value : Json) : Except Error Json :=
  match pipeline with
  | [] => .ok value
  | (name, arguments) :: rest =>
      if name = "default" || name = "safe" then throughFilters bindings rest value
      else
        match builtInFilters.lookup name with
        | none => .error (.unknownFilter name)
        | some filter => do
            let given <- inFilter name (evaluateArguments bindings arguments)
            let next <- inFilter name (filter given value)
            throughFilters bindings rest next
termination_by structural pipeline

/-- The values of arguments. -/
def evaluateArguments (bindings : Bindings) (arguments : List (String × Expr)) :
    Except Error Arguments :=
  match arguments with
  | [] => .ok []
  | (name, value) :: rest => do
      let first <- evaluate bindings value
      let others <- evaluateArguments bindings rest
      pure ((name, first) :: others)
termination_by structural arguments

end

/-! ## Printed values -/

/-- What the names of templates that write markup end with. -/
def markupEndings : List String := [".html", ".htm", ".xml"]

/-- Whether the template of a name writes markup. -/
def writesMarkup (template : String) : Bool :=
  markupEndings.any (fun ending => ending.toList.isSuffixOf template.toList)

/-- A character of a text in markup. -/
def escapeMarkupChar : Char -> List Char
  | '&' => "&amp;".toList
  | '<' => "&lt;".toList
  | '>' => "&gt;".toList
  | '"' => "&quot;".toList
  | '\'' => "&#x27;".toList
  | '/' => "&#x2F;".toList
  | character => [character]

/-- A text in markup. -/
def escapeMarkup (text : String) : String :=
  String.ofList (text.toList.flatMap escapeMarkupChar)

/-- Whether the last filter of an expression declares its value safe for markup. -/
def Expr.isMarkedSafe : Expr -> Bool
  | .piped _ filters => filters.getLast?.any (fun filter => filter.1 == "safe")
  | _ => false

/-- The text of a value that is printed. -/
def printed (markup : Bool) (expression : Expr) (value : Json) : String :=
  match value with
  | .string text =>
      if markup && !expression.isMarkedSafe then escapeMarkup text else text
  | value => written value

/-! ## Templates -/

/-- What has been written, and the bindings after it. -/
structure Progress where
  written : String
  bindings : Bindings

mutual

/-- Render one part of a template that writes markup or does not. -/
def renderNode (markup : Bool) (progress : Progress) (node : Node) : Except Error Progress :=
  match node with
  | .text content => .ok { progress with written := progress.written ++ content }
  | .print value => do
      let result <- evaluate progress.bindings value
      pure { progress with written := progress.written ++ printed markup value result }
  | .assign name value => do
      let result <- evaluate progress.bindings value
      pure { progress with bindings := (name, result) :: progress.bindings }
  | .choose branches otherwise => renderBranches markup progress branches (fun _ =>
      renderNodes markup progress otherwise)
termination_by structural node

/-- Render the first part whose condition holds. -/
def renderBranches (markup : Bool) (progress : Progress) (branches : List (Expr × List Node))
    (otherwise : Unit -> Except Error Progress) : Except Error Progress :=
  match branches with
  | [] => otherwise ()
  | (condition, body) :: rest => do
      let chosen <- condition.holds (evaluate progress.bindings condition)
      if chosen then renderNodes markup progress body
      else renderBranches markup progress rest otherwise
termination_by structural branches

/-- Render parts one after the other. -/
def renderNodes (markup : Bool) (progress : Progress) (nodes : List Node) :
    Except Error Progress :=
  match nodes with
  | [] => .ok progress
  | node :: rest => do renderNodes markup (<- renderNode markup progress node) rest
termination_by structural nodes

end

/-- Render the template of a name. -/
def render (template : String) (nodes : List Node) (bindings : Bindings) :
    Except Error String :=
  (renderNodes (writesMarkup template) ⟨"", bindings⟩ nodes).map Progress.written

end Template
end OpenApiTypes
