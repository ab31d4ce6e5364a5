namespace OpenApiTypes
namespace Text

/-!
# Blank characters and trimming

Blank is the White_Space property of the Unicode character database.  Trimming is
defined on character lists, so that what it removes can be read off from the list
operations; the function on strings only wraps it.
-/

/-- The White_Space property. -/
def isBlank (character : Char) : Bool :=
  let code := character.toNat
  (0x09 <= code && code <= 0x0d) || code == 0x20 || code == 0x85 || code == 0xa0 ||
    code == 0x1680 || (0x2000 <= code && code <= 0x200a) || code == 0x2028 ||
    code == 0x2029 || code == 0x202f || code == 0x205f || code == 0x3000

/-- Drop the blanks at the front. -/
def trimStartChars (characters : List Char) : List Char :=
  characters.dropWhile isBlank

/-- Drop the blanks at the end. -/
def trimEndChars (characters : List Char) : List Char :=
  (characters.reverse.dropWhile isBlank).reverse

/-- Drop the blanks on both sides of a string. -/
def trim (text : String) : String :=
  String.ofList (trimEndChars (trimStartChars text.toList))

end Text
end OpenApiTypes
