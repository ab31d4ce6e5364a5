import OpenApiTypes.Proofs.Document.PointerDecoding
import OpenApiTypes.Proofs.Document.PointerSegments
import Mathlib.Data.List.Flatten

namespace OpenApiTypes
namespace Pointer

/-!
# Encoding a name as a segment

A name is encoded in three passes: tildes are escaped, then slashes, and then everything
that does not stand for itself in a URI is written in percent escapes.  Each pass leaves
alone what the one before it has written, so together they write every character of the
name on its own, and decoding can take the characters back one by one.
-/

/-! ## The passes -/

/-- The characters that stand for themselves in a URI. -/
def isUnreserved (character : Char) : Bool :=
  character.isAlphanum || character == '-' || character == '.' || character == '_' ||
    character == '~'

/-- A hexadecimal digit, with a capital letter above nine. -/
def hexDigit (value : Nat) : Char :=
  Char.ofNat (if value < 10 then 48 + value else 55 + value)

def percentEscape (octet : UInt8) : List Char :=
  ['%', hexDigit (octet.toNat / 16), hexDigit (octet.toNat % 16)]

def percentEncodeChar (character : Char) : List Char :=
  if isUnreserved character then [character]
  else (String.utf8EncodeChar character).flatMap percentEscape

/-- Encode a name: `~` as `~0`, then `/` as `~1`, then percent escapes. -/
def encodeChars (name : List Char) : List Char :=
  (Text.replaceAll ['/'] ['~', '1'] (Text.replaceAll ['~'] ['~', '0'] name)).flatMap
    percentEncodeChar

/-- Encode a name as a segment. -/
def encode (name : String) : String :=
  String.ofList (encodeChars name.toList)

/-! ## Character by character -/

theorem replaceAll_singleton (pattern : Char) (replacement characters : List Char) :
    Text.replaceAll [pattern] replacement characters =
      characters.flatMap (fun character =>
        if character = pattern then replacement else [character]) := by
  change Text.replaceFrom [pattern] replacement 0 characters = _
  induction characters with
  | nil => rfl
  | cons character rest inductionHypothesis =>
      rw [Text.replaceFrom, List.flatMap_cons, ← inductionHypothesis]
      by_cases same : character = pattern
      · simp [same]
      · simp [same, Ne.symm same]

/-- What a character is encoded as, wherever it stands. -/
def encodeChar (character : Char) : List Char :=
  if character = '~' then ['~', '0']
  else if character = '/' then ['~', '1']
  else percentEncodeChar character

theorem encodeChars_eq_flatMap (name : List Char) : encodeChars name = name.flatMap encodeChar := by
  rw [encodeChars, replaceAll_singleton, replaceAll_singleton, List.flatMap_assoc,
    List.flatMap_assoc]
  apply List.flatMap_congr
  intro character _
  unfold encodeChar
  by_cases tilde : character = '~'
  · subst tilde
    rfl
  · by_cases slash : character = '/'
    · subst slash
      rfl
    · simp [tilde, slash]

theorem hexValue?_hexDigit {value : Nat} (small : value < 16) :
    hexValue? (hexDigit value) = some value := by
  have all : ∀ digit : Fin 16, hexValue? (hexDigit digit) = some digit.val := by decide
  exact all ⟨value, small⟩

theorem percentOctets_percentEscape (octet : UInt8) (rest : List Char) :
    percentOctets (tildeDecode (percentEscape octet ++ rest)) =
      octet :: percentOctets (tildeDecode rest) := by
  have small := octet.toNat_lt
  have high := hexValue?_hexDigit (show octet.toNat / 16 < 16 by omega)
  have low := hexValue?_hexDigit (show octet.toNat % 16 < 16 by omega)
  have whole : UInt8.ofNat (16 * (octet.toNat / 16) + octet.toNat % 16) = octet := by
    rw [Nat.div_add_mod, UInt8.ofNat_toNat]
  change percentOctets (tildeDecode ('%' :: _ :: _ :: rest)) = _
  rw [tildeDecode_of_hexValues high low, percentOctets_of_hexValues high low, whole]

theorem percentOctets_flatMap_percentEscape (octets : List UInt8) (rest : List Char) :
    percentOctets (tildeDecode (octets.flatMap percentEscape ++ rest)) =
      octets ++ percentOctets (tildeDecode rest) := by
  induction octets with
  | nil => rfl
  | cons octet later inductionHypothesis =>
      rw [List.flatMap_cons, List.append_assoc, percentOctets_percentEscape, inductionHypothesis,
        List.cons_append]

/-- Decoding takes an encoded character back. -/
theorem percentOctets_encodeChar (character : Char) (rest : List Char) :
    percentOctets (tildeDecode (encodeChar character ++ rest)) =
      String.utf8EncodeChar character ++ percentOctets (tildeDecode rest) := by
  unfold encodeChar
  split
  next tilde =>
    subst tilde
    exact (congrArg percentOctets (tildeDecode_escape rfl rest)).trans
      (percentOctets_cons (escapedOctet?_of_ne (by decide) _))
  split
  next slash =>
    subst slash
    exact (congrArg percentOctets (tildeDecode_escape rfl rest)).trans
      (percentOctets_cons (escapedOctet?_of_ne (by decide) _))
  next notTilde _ =>
    unfold percentEncodeChar
    split
    next unreserved =>
      have notPercent : character ≠ '%' := by
        rintro rfl
        cases unreserved
      rw [List.singleton_append, tildeDecode_cons (fun tilde => absurd tilde notTilde),
        percentOctets_cons (escapedOctet?_of_ne notPercent _)]
    next => exact percentOctets_flatMap_percentEscape _ rest

theorem percentOctets_encodeChars (name : List Char) :
    percentOctets (tildeDecode (encodeChars name)) = name.flatMap String.utf8EncodeChar := by
  rw [encodeChars_eq_flatMap]
  induction name with
  | nil => rfl
  | cons character rest inductionHypothesis =>
      rw [List.flatMap_cons, List.flatMap_cons, percentOctets_encodeChar, inductionHypothesis]

/-- Decoding undoes encoding. -/
theorem decodeSegment_encode (name : String) : decodeSegment (encode name) = name := by
  rw [decodeSegment, encode, String.toList_ofList, decodeChars, percentDecode,
    percentOctets_encodeChars, Text.lossyFrom_utf8EncodeChars, String.ofList_toList]

example : encode "/a~b/é%" = "~1a~0b~1%C3%A9%25" ∧
    decodeSegment "~1a~0b~1%C3%A9%25" = "/a~b/é%" := by decide

/-! ## Slashes -/

theorem slash_notMem_percentEscape (octet : UInt8) : '/' ∉ percentEscape octet := by
  have small := octet.toNat_lt
  have noSlash {value : Nat} (digit : value < 16) : '/' ≠ hexDigit value := by
    intro same
    have found := hexValue?_hexDigit digit
    rw [← same] at found
    cases found
  have high := noSlash (show octet.toNat / 16 < 16 by omega)
  have low := noSlash (show octet.toNat % 16 < 16 by omega)
  simp [percentEscape, high, low]

theorem slash_notMem_encodeChar (character : Char) : '/' ∉ encodeChar character := by
  unfold encodeChar
  split
  · decide
  split
  · decide
  next different =>
    unfold percentEncodeChar
    split
    · rw [List.mem_singleton]
      exact Ne.symm different
    · intro member
      rcases List.mem_flatMap.mp member with ⟨octet, _, inside⟩
      exact slash_notMem_percentEscape octet inside

/-- An encoded name is one segment. -/
theorem slash_notMem_encode (name : String) : '/' ∉ (encode name).toList := by
  rw [encode, String.toList_ofList, encodeChars_eq_flatMap]
  intro member
  rcases List.mem_flatMap.mp member with ⟨character, _, inside⟩
  exact slash_notMem_encodeChar character inside

theorem targetName_encode (before name : String) :
    targetName (before ++ "/" ++ encode name) = name := by
  rw [targetName_of_endsIn (.after before (slash_notMem_encode name)), decodeSegment_encode]

theorem registryName?_encode (before name : String) :
    registryName? (before ++ "/" ++ encode name) =
      (segments before).getLast?.map String.ofList :=
  registryName?_append before (slash_notMem_encode name)

end Pointer
end OpenApiTypes
