import OpenApiTypes.Proofs.Document.HiddenEscapes

namespace OpenApiTypes
namespace Pointer

/-!
# Encoding a segment further

Any character of a segment may be written as percent escapes without a change to the octets
that the segment stands for.  In the order of URI fragments that never changes the name;
in the order of decoding here it does as soon as a tilde escape gets hidden.
-/

/-- The number of tilde escapes that are written in a segment. -/
def tildeEscapes : List Char -> Nat
  | '~' :: digit :: rest =>
      if isTildeDigit digit then tildeEscapes rest + 1 else tildeEscapes (digit :: rest)
  | _ :: rest => tildeEscapes rest
  | [] => 0

theorem tildeEscapes_cons {character : Char} {rest : List Char}
    (plain : character = '~' -> ∀ next ∈ rest.head?, isTildeDigit next = false) :
    tildeEscapes (character :: rest) = tildeEscapes rest := by
  by_cases tilde : character = '~'
  · subst tilde
    cases rest with
    | nil => rfl
    | cons next later => simp [tildeEscapes, plain rfl next rfl]
  · apply tildeEscapes.eq_2
    rintro next later rfl
    exact absurd rfl tilde

/-- The tilde escapes in a text are those among its octets. -/
theorem tildeCount_spelledOctets (characters : List Char) :
    tildeCount (spelledOctets characters) = tildeEscapes characters := by
  induction characters using escape_induction with
  | nil => rfl
  | percent high low first second rest highValue lowValue inductionHypothesis =>
      have noTilde {digit : Char} {value : Nat} (found : hexValue? digit = some value)
          (after : List Char) : tildeEscapes (digit :: after) = tildeEscapes after := by
        apply tildeEscapes_cons
        rintro rfl
        cases found
      rw [spelledOctets_of_hexValues highValue lowValue, tildeCount_cons, inductionHypothesis,
        tildeEscapes_cons (fun impossible => absurd impossible (by decide)), noTilde highValue,
        noTilde lowValue]
      intro spelled _ escape
      cases escape.2.1
  | tilde digit rest isDigit inductionHypothesis =>
      rw [spelledOctets_tildeEscape isDigit, tildeCount,
        if_pos (isTildeEscape_of_isTildeDigit isDigit), inductionHypothesis, tildeEscapes,
        if_pos isDigit]
  | plain character rest plain notEscape inductionHypothesis =>
      rw [tildeEscapes_cons notEscape, ← inductionHypothesis, spelledOctets_cons plain]
      by_cases tilde : character = '~'
      · subst tilde
        have noEscape := @not_isTildeEscape_of_head rest (notEscape rfl) ⟨0x7e, true⟩
        exact tildeCount_cons noEscape
      · exact tildeCount_append (ne_tilde_of_mem_plainly tilde) _

/-- A text of percent escapes that stand for these octets, one for each. -/
inductive Escapes : List UInt8 -> List Char -> Prop
  | nil : Escapes [] []
  | cons {high low : Char} {first second : Nat} {octets : List UInt8} {rest : List Char}
      (highValue : hexValue? high = some first) (lowValue : hexValue? low = some second)
      (later : Escapes octets rest) :
      Escapes (UInt8.ofNat (16 * first + second) :: octets) ('%' :: high :: low :: rest)

/-- The second segment is the first one with some more of its characters percent-encoded. -/
inductive FurtherEncoded : List Char -> List Char -> Prop
  | nil : FurtherEncoded [] []
  | escape {high low : Char} {first second : Nat} {rest encoded : List Char}
      (highValue : hexValue? high = some first) (lowValue : hexValue? low = some second)
      (later : FurtherEncoded rest encoded) :
      FurtherEncoded ('%' :: high :: low :: rest) ('%' :: high :: low :: encoded)
  | keep {character : Char} {rest encoded : List Char}
      (plain : escapedOctet? (character :: rest) = none)
      (later : FurtherEncoded rest encoded) :
      FurtherEncoded (character :: rest) (character :: encoded)
  | encode {character : Char} {rest encoded spelling : List Char}
      (plain : escapedOctet? (character :: rest) = none)
      (escapes : Escapes (String.utf8EncodeChar character) spelling)
      (later : FurtherEncoded rest encoded) :
      FurtherEncoded (character :: rest) (spelling ++ encoded)

theorem Escapes.covers {octets : List UInt8} {spelling : List Char}
    (escapes : Escapes octets spelling) {encoded : List Char} {others : List SpelledOctet}
    (later : Covers (spelledOctets encoded) others) :
    Covers (spelledOctets (spelling ++ encoded)) (plainly octets ++ others) := by
  induction escapes with
  | nil => exact later
  | @cons high low first second octets rest highValue lowValue _ inductionHypothesis =>
      have spelled := spelledOctets_of_hexValues highValue lowValue (rest ++ encoded)
      rw [List.cons_append, List.cons_append, List.cons_append, spelled]
      exact .cons ⟨rfl, fun impossible => nomatch impossible⟩ inductionHypothesis

theorem FurtherEncoded.eq_cons {segment encoded later : List Char} {character : Char}
    (further : FurtherEncoded segment encoded) (shape : encoded = character :: later)
    (other : character ≠ '%') :
    ∃ rest, segment = character :: rest ∧ FurtherEncoded rest later := by
  cases further with
  | nil => cases shape
  | escape =>
      cases shape
      exact absurd rfl other
  | keep plain kept =>
      cases shape
      exact ⟨_, rfl, kept⟩
  | @encode written _ _ _ plain escapes =>
      generalize octets : String.utf8EncodeChar written = all at escapes
      cases escapes with
      | nil => exact absurd octets (Text.utf8EncodeChar_ne_nil written)
      | cons =>
          cases shape
          exact absurd rfl other

/-- What starts no percent escape still starts none when what follows is encoded. -/
theorem FurtherEncoded.escapedOctet?_cons {rest encoded : List Char}
    (further : FurtherEncoded rest encoded) {character : Char}
    (plain : escapedOctet? (character :: rest) = none) :
    escapedOctet? (character :: encoded) = none := by
  rw [Option.eq_none_iff_forall_ne_some]
  intro octet found
  rcases (escapedOctet?_eq_some_iff _ _).mp found with
    ⟨high, low, first, second, others, shape, highValue, lowValue, _⟩
  rcases List.cons.inj shape with ⟨rfl, starts⟩
  have notPercent {digit : Char} {value : Nat} (isDigit : hexValue? digit = some value) :
      digit ≠ '%' := by
    rintro rfl
    cases isDigit
  rcases further.eq_cons starts (notPercent highValue) with ⟨afterHigh, rfl, furtherHigh⟩
  rcases furtherHigh.eq_cons rfl (notPercent lowValue) with ⟨afterLow, rfl, _⟩
  rw [escapedOctet?_of_hexValues highValue lowValue] at plain
  cases plain

/-- Encoding a segment further changes no octet. -/
theorem FurtherEncoded.covers {segment encoded : List Char}
    (further : FurtherEncoded segment encoded) :
    Covers (spelledOctets encoded) (spelledOctets segment) := by
  induction further with
  | nil => exact .nil
  | escape highValue lowValue _ inductionHypothesis =>
      rw [spelledOctets_of_hexValues highValue lowValue,
        spelledOctets_of_hexValues highValue lowValue]
      exact .cons ⟨rfl, id⟩ inductionHypothesis
  | @keep character rest encoded plain later inductionHypothesis =>
      rw [spelledOctets_cons plain, spelledOctets_cons (later.escapedOctet?_cons plain)]
      have same : Covers (plainly (String.utf8EncodeChar character))
          (plainly (String.utf8EncodeChar character)) :=
        List.forall₂_same.mpr (fun _ _ => ⟨rfl, id⟩)
      exact List.rel_append same inductionHypothesis
  | @encode character rest encoded spelling plain escapes _ inductionHypothesis =>
      rw [spelledOctets_cons plain]
      exact escapes.covers inductionHypothesis

/-! ## Where the two orders agree -/

theorem decodeSegment_eq_fragmentDecode_iff (segment : String) :
    decodeSegment segment = fragmentDecode segment ↔
      ∀ hidden ∈ hiddenEscapes, ¬ hidden.toList <:+: segment.toList := by
  have covers := covers_plainly (spelledOctets segment.toList)
  calc
    _ ↔ decodeChars segment.toList = tildeDecode (percentDecode segment.toList) :=
      String.ofList_inj
    _ ↔ tildeCount (spelledOctets segment.toList) =
          tildeCount (unspelledOctets segment.toList) := by
      rw [decodeChars_eq, tildeDecode_percentDecode]
      exact covers.lossyFrom_iff
    _ ↔ ¬ HidesEscape (spelledOctets segment.toList) := tildeCount_plainly_eq_iff _
    _ ↔ _ := by
      rw [hidesEscape_spelledOctets_iff]
      push Not
      rfl

theorem fragmentDecode_of_furtherEncoded {segment longer : String}
    (further : FurtherEncoded segment.toList longer.toList) :
    fragmentDecode longer = fragmentDecode segment := by
  rw [fragmentDecode, fragmentDecode, percentDecode, percentDecode, percentOctets_eq_map,
    percentOctets_eq_map, further.covers.map_octet]

theorem decodeSegment_eq_iff_of_furtherEncoded {segment longer : String}
    (further : FurtherEncoded segment.toList longer.toList) :
    decodeSegment longer = decodeSegment segment ↔
      tildeEscapes longer.toList = tildeEscapes segment.toList := by
  rw [← tildeCount_spelledOctets, ← tildeCount_spelledOctets, decodeSegment, decodeSegment,
    String.ofList_inj, decodeChars_eq, decodeChars_eq]
  exact further.covers.lossyFrom_iff

/-- Decoding a segment gives what the order of URI fragments gives exactly when the segment
hides no tilde escape.  Encoding a segment further keeps what that order gives, and keeps
what the segment is decoded to exactly when it keeps the number of tilde escapes. -/
theorem decodingOrder_iff (segment : String) :
    (decodeSegment segment = fragmentDecode segment ↔
      ∀ hidden ∈ hiddenEscapes, ¬ hidden.toList <:+: segment.toList) ∧
    ∀ longer : String, FurtherEncoded segment.toList longer.toList ->
      fragmentDecode longer = fragmentDecode segment ∧
      (decodeSegment longer = decodeSegment segment ↔
        tildeEscapes longer.toList = tildeEscapes segment.toList) :=
  ⟨decodeSegment_eq_fragmentDecode_iff segment, fun _ further =>
    ⟨fragmentDecode_of_furtherEncoded further, decodeSegment_eq_iff_of_furtherEncoded further⟩⟩

/-- The tilde of a slash, percent-encoded. -/
theorem decodingOrder_encodedTilde :
    FurtherEncoded "~1users".toList "%7E1users".toList ∧
      fragmentDecode "%7E1users" = fragmentDecode "~1users" ∧
      decodeSegment "%7E1users" ≠ decodeSegment "~1users" := by
  have tilde : Escapes (String.utf8EncodeChar '~') ['%', '7', 'E'] :=
    @Escapes.cons '7' 'E' 7 14 [] [] rfl rfl .nil
  have further : FurtherEncoded "~1users".toList "%7E1users".toList :=
    .encode rfl tilde (.keep rfl (.keep rfl (.keep rfl (.keep rfl (.keep rfl (.keep rfl .nil))))))
  have both := (decodingOrder_iff "~1users").2 "%7E1users" further
  refine ⟨further, both.1, ?_⟩
  rw [Ne, both.2]
  decide

/-- A segment with a hidden tilde escape keeps it, where the order of URI fragments gives a
slash. -/
theorem decodeSegment_hiddenTilde :
    decodeSegment "%7E1users" = "~1users" ∧ fragmentDecode "%7E1users" = "/users" := by
  constructor <;> rfl

end Pointer
end OpenApiTypes
