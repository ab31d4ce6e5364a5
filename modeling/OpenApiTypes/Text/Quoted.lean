import OpenApiTypes.Text.Shapeless

namespace OpenApiTypes
namespace Text

/-!
# Quoted text in messages

A message shows text between double quotes on one line.  The quote, the backslash and
the common controls have short escapes; every other character without a shape of its
own is shown by its number in braces.
-/

/-- Hexadecimal digits without leading zeros. -/
def hexDigits (number : Nat) : String :=
  String.ofList (Nat.toDigits 16 number)

/-- One character inside the quotes. -/
def quotedChar (character : Char) : String :=
  match character with
  | '"' => "\\\""
  | '\\' => "\\\\"
  | '\n' => "\\n"
  | '\r' => "\\r"
  | '\t' => "\\t"
  | _ =>
      if character.toNat = 0 then "\\0"
      else if isShapeless character then
        "\\u\x7b" ++ hexDigits character.toNat ++ "\x7d"
      else String.singleton character

/-- A text between quotes, on one line. -/
def quoted (text : String) : String :=
  "\"" ++ String.join (text.toList.map quotedChar) ++ "\""

end Text
end OpenApiTypes
