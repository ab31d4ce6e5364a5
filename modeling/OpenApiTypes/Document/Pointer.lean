import OpenApiTypes.Text.Lines
import OpenApiTypes.Text.Utf8

namespace OpenApiTypes
namespace Pointer

/-!
# Reference pointers

A reference is a JSON pointer in a URI fragment, such as `#/components/schemas/User`.
Its last segment names the target and the segment before it selects the registry.  A
segment is decoded in this order: `~1` is a slash, then `~0` is a tilde, then percent
sequences are octets of UTF-8.
-/

/-- The value of a hexadecimal digit. -/
def hexValue? (character : Char) : Option Nat :=
  let code := character.toNat
  if 48 <= code && code <= 57 then some (code - 48)
  else if 65 <= code && code <= 70 then some (code - 55)
  else if 97 <= code && code <= 102 then some (code - 87)
  else none

/-- The octets of a text in which `%` and two hexadecimal digits stand for an octet.
A percent sign without two digits stands for itself. -/
def percentOctets : List Char -> List UInt8
  | [] => []
  | '%' :: high :: low :: rest =>
      match hexValue? high, hexValue? low with
      | some first, some second => UInt8.ofNat (16 * first + second) :: percentOctets rest
      | _, _ => String.utf8EncodeChar '%' ++ percentOctets (high :: low :: rest)
  | character :: rest => String.utf8EncodeChar character ++ percentOctets rest

/-- Decode percent sequences. -/
def percentDecode (characters : List Char) : List Char :=
  Text.lossyFrom none (percentOctets characters)

/-- Decode `~1` and then `~0`. -/
def tildeDecode (characters : List Char) : List Char :=
  Text.replaceAll ['~', '0'] ['~'] (Text.replaceAll ['~', '1'] ['/'] characters)

/-- Decode one segment. -/
def decodeChars (segment : List Char) : List Char :=
  percentDecode (tildeDecode segment)

/-- Decode one segment of a pointer. -/
def decodeSegment (segment : String) : String :=
  String.ofList (decodeChars segment.toList)

/-- The segments of a reference, still encoded. -/
def segments (reference : String) : List (List Char) :=
  Text.splitAt '/' reference.toList

/-- The decoded last segment: the name of the target. -/
def targetName (reference : String) : String :=
  match (segments reference).getLast? with
  | some last => String.ofList (decodeChars last)
  | none => ""

/-- The segment before the last one, which selects the registry. -/
def registryName? (reference : String) : Option String :=
  ((segments reference).dropLast.getLast?).map String.ofList

end Pointer
end OpenApiTypes
