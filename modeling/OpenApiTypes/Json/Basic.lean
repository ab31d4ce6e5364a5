import OpenApiTypes.Json.Binary64

namespace OpenApiTypes

/-!
# JSON values

The tree that documents and settings are read from.  Members keep the order in which
the document writes them, because generated literals and reported errors follow it.
-/

namespace Json

/-- A number is an integer of at most 64 bits or a double. -/
inductive Number where
  | integer (value : Int)
  | real (value : Binary64)
deriving DecidableEq, Inhabited

/-- The least integer that is kept as an integer. -/
def leastInteger : Int := -(twoTo 63 : Int)

/-- The greatest integer that is kept as an integer. -/
def greatestInteger : Int := (twoTo 64 : Int) - 1

/-- Whether an integer is kept as an integer. -/
def fitsInteger (value : Int) : Bool :=
  leastInteger <= value && value <= greatestInteger

/-- Whether an integer has 64 bits, one of them for the sign. -/
def fitsSigned (value : Int) : Bool :=
  -(twoTo 63 : Int) <= value && value < (twoTo 63 : Int)

/-- The written form of a number. -/
def Number.text : Number -> String
  | .integer value => toString value
  | .real value => value.text

end Json

/-- A JSON value. -/
inductive Json where
  | null
  | boolean (value : Bool)
  | number (value : Json.Number)
  | string (value : String)
  | array (items : List Json)
  | object (members : List (String × Json))
deriving Inhabited

/-- The members of an object: a name with its value, in document order. -/
abbrev Json.Members := List (String × Json)

namespace Json
namespace Members

/-- The value of a member. -/
def find? (members : Members) (name : String) : Option Json :=
  members.lookup name

/-- Whether a member of this name is present. -/
def has (members : Members) (name : String) : Bool :=
  members.any (fun member => member.1 == name)

/-- Give a member a value: in its place when the name is present, else at the end. -/
def insert (members : Members) (name : String) (value : Json) : Members :=
  match members with
  | [] => [(name, value)]
  | (head, old) :: rest =>
      if head = name then (name, value) :: rest
      else (head, old) :: insert rest name value

/-- Remove a member; the last member takes its place. -/
def swapRemove (members : Members) (name : String) : Members :=
  match members with
  | [] => []
  | (head, value) :: rest =>
      if head = name then
        match rest.getLast? with
        | none => []
        | some last => last :: rest.dropLast
      else (head, value) :: swapRemove rest name

end Members

/-! ## Compact text -/

/-- One character of a string in JSON text. -/
def escapedChar (character : Char) : String :=
  match character with
  | '"' => "\\\""
  | '\\' => "\\\\"
  | '\n' => "\\n"
  | '\r' => "\\r"
  | '\t' => "\\t"
  | _ =>
      let code := character.toNat
      if code = 8 then "\\b"
      else if code = 12 then "\\f"
      else if code < 32 then
        "\\u00" ++ (if code < 16 then "0" else "") ++ String.ofList (Nat.toDigits 16 code)
      else String.singleton character

/-- A string in JSON text. -/
def quoted (text : String) : String :=
  "\"" ++ String.join (text.toList.map escapedChar) ++ "\""

mutual

/-- JSON text without spaces, members in document order. -/
def compact (value : Json) : String :=
  match value with
  | .null => "null"
  | .boolean true => "true"
  | .boolean false => "false"
  | .number amount => amount.text
  | .string text => quoted text
  | .array items => "[" ++ compactItems items ++ "]"
  | .object members => "\x7b" ++ compactMembers members ++ "\x7d"
termination_by structural value

/-- The items of an array, separated by commas. -/
def compactItems (items : List Json) : String :=
  match items with
  | [] => ""
  | [item] => compact item
  | item :: next :: rest => compact item ++ "," ++ compactItems (next :: rest)
termination_by structural items

/-- The members of an object, separated by commas. -/
def compactMembers (members : List (String × Json)) : String :=
  match members with
  | [] => ""
  | [(name, value)] => quoted name ++ ":" ++ compact value
  | (name, value) :: next :: rest =>
      quoted name ++ ":" ++ compact value ++ "," ++ compactMembers (next :: rest)
termination_by structural members

end

end Json
end OpenApiTypes
