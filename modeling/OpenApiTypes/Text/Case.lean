import OpenApiTypes.Text.CaseTable
import OpenApiTypes.Text.Shapeless

namespace OpenApiTypes
namespace Text

/-!
# Letter case

Full case mapping: one letter may become several, as the sharp s does.  ASCII letters
are decided without the tables, so statements about identifiers need no table look-up.
-/

/-- Look a code point up, first among the sequences, then among the runs. -/
def mapCase (runs : List CaseRun) (sequences : List (Nat × List Nat))
    (character : Char) : List Char :=
  let code := character.toNat
  match sequences.find? (fun entry => entry.1 == code) with
  | some (_, codes) => codes.map Char.ofNat
  | none =>
      match runs.find? (fun run => run.covers code) with
      | some run => [Char.ofNat ((code : Int) + run.distance).toNat]
      | none => [character]

/-- The capital of a letter; other characters stand for themselves. -/
def upperOf (character : Char) : List Char :=
  if character.toNat < 0x80 then [character.toUpper]
  else mapCase upperRuns upperSequences character

/-- The small form of a letter; other characters stand for themselves. -/
def lowerOf (character : Char) : List Char :=
  if character.toNat < 0x80 then [character.toLower]
  else mapCase lowerRuns lowerSequences character

/-- A text in capitals. -/
def toUpper (text : String) : String :=
  String.ofList (text.toList.flatMap upperOf)

/-- Whether a character takes part in letter case. -/
def isCased (character : Char) : Bool :=
  upperOf character != [character] || lowerOf character != [character]

/-- Marks and punctuation that do not end a word for the final sigma. -/
def isCaseIgnorable (character : Char) : Bool :=
  isShapeless character || "'.:^`¨­¯´·¸’‘․‧".toList.contains character

/-- Small letters, where a capital sigma that ends a word takes its final form.
`wordBefore` says whether a cased letter stands before the rest of the text. -/
def lowerFrom (wordBefore : Bool) : List Char -> List Char
  | [] => []
  | character :: rest =>
      let after := match rest.dropWhile isCaseIgnorable with
        | [] => false
        | next :: _ => isCased next
      let small := if character = 'Σ' && wordBefore && !after then ['ς'] else lowerOf character
      let word := if isCaseIgnorable character then wordBefore else isCased character
      small ++ lowerFrom word rest

/-- A text in small letters. -/
def toLower (text : String) : String :=
  String.ofList (lowerFrom false text.toList)

/-- Capitalize the first letter and keep the rest. -/
def capitalizeChars : List Char -> List Char
  | [] => []
  | character :: rest => upperOf character ++ rest

/-- Capitalize the first letter of a text and keep the rest. -/
def capitalize (text : String) : String :=
  String.ofList (capitalizeChars text.toList)

end Text
end OpenApiTypes
