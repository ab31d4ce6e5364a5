import OpenApiTypes.Document.Pointer
import OpenApiTypes.Proofs.Text.LossyReading

namespace OpenApiTypes
namespace Pointer

/-!
# Decoding a segment, character by character

A segment is decoded in passes over the whole text.  The equations here take each pass
apart at the front of the text: tilde escapes are decoded from left to right in one go
although there are two replacements, and a percent sign is the start of an escape or a
character like any other.
-/

/-! ## Tilde escapes -/

private theorem replaceAll_pair_of_match (first second : Char) (replacement rest : List Char) :
    Text.replaceAll [first, second] replacement (first :: second :: rest) =
      replacement ++ Text.replaceAll [first, second] replacement rest := by
  simp [Text.replaceAll, Text.replaceFrom]

private theorem replaceAll_pair_of_ne {first second character : Char} {rest : List Char}
    (different : character = first -> rest.head? ≠ some second) (replacement : List Char) :
    Text.replaceAll [first, second] replacement (character :: rest) =
      character :: Text.replaceAll [first, second] replacement rest := by
  have noMatch : [first, second].isPrefixOf (character :: rest) = false := by
    cases rest with
    | nil => simp [List.isPrefixOf]
    | cons next later =>
        simp only [List.isPrefixOf, Bool.and_true, Bool.and_eq_false_iff, beq_eq_false_iff_ne]
        by_cases same : first = character
        · right
          rintro rfl
          exact different same.symm rfl
        · exact Or.inl same
  simp [Text.replaceAll, Text.replaceFrom, noMatch]

private theorem head?_replaceAll_slash (characters : List Char) :
    (Text.replaceAll ['~', '1'] ['/'] characters).head? = some '0' ->
      characters.head? = some '0' := by
  cases characters with
  | nil => exact id
  | cons character rest =>
      by_cases escape : character = '~' ∧ rest.head? = some '1'
      · rcases escape with ⟨rfl, next⟩
        rcases List.head?_eq_some_iff.mp next with ⟨later, rfl⟩
        rw [replaceAll_pair_of_match]
        intro impossible
        cases impossible
      · rw [replaceAll_pair_of_ne (fun same next => escape ⟨same, next⟩)]
        exact id

@[simp] theorem tildeDecode_nil : tildeDecode [] = [] := rfl

/-- The digits that a tilde escapes something with. -/
def isTildeDigit (character : Char) : Bool :=
  character == '0' || character == '1'

theorem isTildeDigit_iff (character : Char) :
    isTildeDigit character = true ↔ character = '0' ∨ character = '1' := by
  simp [isTildeDigit]

/-- The character that a tilde and this digit stand for. -/
def tildeValue (digit : Char) : Char :=
  if digit = '0' then '~' else '/'

theorem tildeDecode_escape {digit : Char} (isDigit : isTildeDigit digit = true)
    (rest : List Char) :
    tildeDecode ('~' :: digit :: rest) = tildeValue digit :: tildeDecode rest := by
  rcases (isTildeDigit_iff digit).mp isDigit with rfl | rfl
  · have kept : Text.replaceAll ['~', '1'] ['/'] ('~' :: '0' :: rest) =
        '~' :: '0' :: Text.replaceAll ['~', '1'] ['/'] rest := by
      rw [replaceAll_pair_of_ne (by simp),
        replaceAll_pair_of_ne (fun same => absurd same (by decide))]
    rw [tildeDecode, kept, replaceAll_pair_of_match]
    rfl
  · rw [tildeDecode, replaceAll_pair_of_match, List.singleton_append,
      replaceAll_pair_of_ne (fun same => absurd same (by decide))]
    rfl

/-- Every character that starts no tilde escape stays. -/
theorem tildeDecode_cons {character : Char} {rest : List Char}
    (plain : character = '~' -> ∀ next ∈ rest.head?, isTildeDigit next = false) :
    tildeDecode (character :: rest) = character :: tildeDecode rest := by
  have noSlash : character = '~' -> rest.head? ≠ some '1' := by
    intro tilde next
    exact absurd (plain tilde '1' next) (by decide)
  have noTilde : character = '~' ->
      (Text.replaceAll ['~', '1'] ['/'] rest).head? ≠ some '0' := by
    intro tilde next
    exact absurd (plain tilde '0' (head?_replaceAll_slash rest next)) (by decide)
  rw [tildeDecode, replaceAll_pair_of_ne noSlash, replaceAll_pair_of_ne noTilde]
  rfl

theorem tildeDecode_append {characters : List Char} (absent : '~' ∉ characters)
    (rest : List Char) : tildeDecode (characters ++ rest) = characters ++ tildeDecode rest := by
  induction characters with
  | nil => rfl
  | cons character later inductionHypothesis =>
      rw [List.mem_cons, not_or] at absent
      rw [List.cons_append, tildeDecode_cons (fun same => absurd same.symm absent.1),
        inductionHypothesis absent.2, List.cons_append]

/-! ## Hexadecimal digits -/

theorem eq_of_hexValue? {character : Char} {value : Nat}
    (found : hexValue? character = some value) :
    value < 10 ∧ character = Char.ofNat (48 + value) ∨
      10 ≤ value ∧ value < 16 ∧
        (character = Char.ofNat (55 + value) ∨ character = Char.ofNat (87 + value)) := by
  have named {number : Nat} (same : character.toNat = number) : character = Char.ofNat number := by
    rw [← same, Char.ofNat_toNat]
  simp only [hexValue?, Bool.and_eq_true, decide_eq_true_eq] at found
  split at found
  · have value := Option.some.inj found
    exact Or.inl ⟨by omega, named (by omega)⟩
  split at found
  · have value := Option.some.inj found
    exact Or.inr ⟨by omega, by omega, Or.inl (named (by omega))⟩
  split at found
  · have value := Option.some.inj found
    exact Or.inr ⟨by omega, by omega, Or.inr (named (by omega))⟩
  · cases found

theorem lt_of_hexValue? {character : Char} {value : Nat}
    (found : hexValue? character = some value) : value < 16 := by
  rcases eq_of_hexValue? found with ⟨small, _⟩ | ⟨_, small, _⟩ <;> omega

theorem eq_of_decimal {character : Char} {value : Nat} (found : hexValue? character = some value)
    (decimal : value < 10) : character = Char.ofNat (48 + value) := by
  rcases eq_of_hexValue? found with ⟨_, same⟩ | ⟨least, _⟩
  · exact same
  · omega

/-- The digits of a percent escape are those of its octet. -/
theorem hexValues_of_ofNat {high low : Char} {first second : Nat}
    (highValue : hexValue? high = some first) (lowValue : hexValue? low = some second)
    {octet : UInt8} (escaped : UInt8.ofNat (16 * first + second) = octet) :
    first = octet.toNat / 16 ∧ second = octet.toNat % 16 := by
  have firstDigit := lt_of_hexValue? highValue
  have secondDigit := lt_of_hexValue? lowValue
  rw [← escaped, UInt8.toNat_ofNat_of_lt' (show 16 * first + second < 256 by omega)]
  omega

/-! ## Percent escapes -/

/-- The octet of the percent escape that a text starts with. -/
def escapedOctet? : List Char -> Option UInt8
  | '%' :: high :: low :: _ =>
      match hexValue? high, hexValue? low with
      | some first, some second => some (UInt8.ofNat (16 * first + second))
      | _, _ => none
  | _ => none

theorem escapedOctet?_of_hexValues {high low : Char} {first second : Nat}
    (highValue : hexValue? high = some first) (lowValue : hexValue? low = some second)
    (rest : List Char) :
    escapedOctet? ('%' :: high :: low :: rest) = some (UInt8.ofNat (16 * first + second)) := by
  rw [escapedOctet?, highValue, lowValue]

theorem escapedOctet?_eq_none {high low : Char} {rest : List Char}
    (none : forall first second : Nat,
      hexValue? high = some first -> hexValue? low = some second -> False) :
    escapedOctet? ('%' :: high :: low :: rest) = .none := by
  rw [escapedOctet?]
  split
  · next first second highValue lowValue => exact (none _ _ highValue lowValue).elim
  · rfl

/-- A text starts with a percent escape exactly when a percent sign and two hexadecimal
digits stand there. -/
theorem escapedOctet?_eq_some_iff (characters : List Char) (octet : UInt8) :
    escapedOctet? characters = some octet ↔
      ∃ (high low : Char) (first second : Nat) (rest : List Char),
        characters = '%' :: high :: low :: rest ∧ hexValue? high = some first ∧
        hexValue? low = some second ∧ UInt8.ofNat (16 * first + second) = octet := by
  constructor
  · intro found
    unfold escapedOctet? at found
    split at found
    · next high low rest =>
        split at found
        · next first second highValue lowValue =>
            exact ⟨high, low, first, second, rest, rfl, highValue, lowValue,
              Option.some.inj found⟩
        · cases found
    · cases found
  · rintro ⟨high, low, first, second, rest, rfl, highValue, lowValue, rfl⟩
    exact escapedOctet?_of_hexValues highValue lowValue rest

theorem escapedOctet?_of_ne {character : Char} (other : character ≠ '%') (rest : List Char) :
    escapedOctet? (character :: rest) = none := by
  rw [Option.eq_none_iff_forall_ne_some]
  intro octet found
  rcases (escapedOctet?_eq_some_iff _ _).mp found with ⟨_, _, _, _, _, shape, _⟩
  exact other (List.cons.inj shape).1

/-- No hexadecimal digit is the result of a tilde escape. -/
theorem eq_cons_of_tildeDecode {characters rest : List Char} {digit : Char} {value : Nat}
    (isDigit : hexValue? digit = some value) (decoded : tildeDecode characters = digit :: rest) :
    ∃ later, characters = digit :: later ∧ tildeDecode later = rest := by
  cases characters with
  | nil => cases decoded
  | cons character later =>
      by_cases escapes : character = '~' ∧ ∃ next ∈ later.head?, isTildeDigit next = true
      · rcases escapes with ⟨rfl, next, member, tildeDigit⟩
        rcases List.head?_eq_some_iff.mp member with ⟨last, rfl⟩
        rw [tildeDecode_escape tildeDigit] at decoded
        have same := (List.cons.inj decoded).1
        unfold tildeValue at same
        split at same
        · subst same
          cases isDigit
        · subst same
          cases isDigit
      · rw [tildeDecode_cons] at decoded
        · rcases List.cons.inj decoded with ⟨rfl, same⟩
          exact ⟨later, rfl, same⟩
        · intro same next member
          rw [← Bool.not_eq_true]
          exact fun tildeDigit => escapes ⟨same, next, member, tildeDigit⟩

/-- Decoding tilde escapes makes no percent escape. -/
theorem escapedOctet?_tildeDecode {character : Char} {rest : List Char}
    (plain : escapedOctet? (character :: rest) = none) :
    escapedOctet? (character :: tildeDecode rest) = none := by
  rw [Option.eq_none_iff_forall_ne_some]
  intro octet found
  rcases (escapedOctet?_eq_some_iff _ _).mp found with
    ⟨high, low, first, second, later, shape, highValue, lowValue, _⟩
  rcases List.cons.inj shape with ⟨rfl, decoded⟩
  rcases eq_cons_of_tildeDecode highValue decoded with ⟨afterHigh, rfl, decodedHigh⟩
  rcases eq_cons_of_tildeDecode lowValue decodedHigh with ⟨afterLow, rfl, _⟩
  rw [escapedOctet?_of_hexValues highValue lowValue] at plain
  cases plain

theorem tildeDecode_of_hexValues {high low : Char} {first second : Nat}
    (highValue : hexValue? high = some first) (lowValue : hexValue? low = some second)
    (rest : List Char) :
    tildeDecode ('%' :: high :: low :: rest) = '%' :: high :: low :: tildeDecode rest := by
  have absent : '~' ∉ ['%', high, low] := by
    simp only [List.mem_cons, List.not_mem_nil, or_false, not_or]
    refine ⟨by decide, ?_, ?_⟩
    · rintro rfl
      cases highValue
    · rintro rfl
      cases lowValue
  exact tildeDecode_append absent rest

/-- A segment is empty, or starts with a percent escape, or with a character that starts
none. -/
theorem segment_induction {motive : List Char -> Prop} (nil : motive [])
    (escape : forall (high low : Char) (first second : Nat) (rest : List Char),
      hexValue? high = some first -> hexValue? low = some second -> motive rest ->
        motive ('%' :: high :: low :: rest))
    (plain : forall (character : Char) (rest : List Char),
      escapedOctet? (character :: rest) = none -> motive rest -> motive (character :: rest))
    (characters : List Char) : motive characters := by
  induction characters using percentOctets.induct with
  | case1 => exact nil
  | case2 high low rest first second lowValue highValue inductionHypothesis =>
      exact escape high low first second rest highValue lowValue inductionHypothesis
  | case3 high low rest none inductionHypothesis =>
      exact plain '%' (high :: low :: rest) (escapedOctet?_eq_none none) inductionHypothesis
  | case4 character rest none inductionHypothesis =>
      refine plain character rest ?_ inductionHypothesis
      rw [Option.eq_none_iff_forall_ne_some]
      intro octet found
      rcases (escapedOctet?_eq_some_iff _ _).mp found with ⟨high, low, _, _, later, shape, _⟩
      exact none high low later (List.cons.inj shape).1 (List.cons.inj shape).2

/-- A segment is empty, or starts with a percent escape, or with a tilde escape, or with a
character that starts neither. -/
theorem escape_induction {motive : List Char -> Prop} (nil : motive [])
    (percent : forall (high low : Char) (first second : Nat) (rest : List Char),
      hexValue? high = some first -> hexValue? low = some second -> motive rest ->
        motive ('%' :: high :: low :: rest))
    (tilde : forall (digit : Char) (rest : List Char), isTildeDigit digit = true ->
      motive rest -> motive ('~' :: digit :: rest))
    (plain : forall (character : Char) (rest : List Char),
      escapedOctet? (character :: rest) = none ->
      (character = '~' -> ∀ next ∈ rest.head?, isTildeDigit next = false) ->
        motive rest -> motive (character :: rest))
    (characters : List Char) : motive characters := by
  -- By length, because an escape is more than one character.
  induction count : characters.length using Nat.strongRecOn generalizing characters with
  | ind length inductionHypothesis =>
      subst count
      have shorter (front rest : List Char) (shape : characters = front ++ rest)
          (nonempty : front ≠ []) : motive rest := by
        refine inductionHypothesis rest.length ?_ rest rfl
        rw [shape, List.length_append]
        exact Nat.lt_add_of_pos_left (List.length_pos_iff.mpr nonempty)
      cases found : escapedOctet? characters with
      | some octet =>
          rcases (escapedOctet?_eq_some_iff _ _).mp found with
            ⟨high, low, first, second, rest, rfl, highValue, lowValue, _⟩
          exact percent high low first second rest highValue lowValue
            (shorter ['%', high, low] rest rfl (by simp))
      | none =>
          cases characters with
          | nil => exact nil
          | cons character rest =>
              by_cases escapes : character = '~' ∧ ∃ next ∈ rest.head?, isTildeDigit next = true
              · rcases escapes with ⟨rfl, digit, next, isDigit⟩
                rcases List.head?_eq_some_iff.mp next with ⟨later, rfl⟩
                exact tilde digit later isDigit (shorter ['~', digit] later rfl (by simp))
              · refine plain character rest found ?_ (shorter [character] rest rfl (by simp))
                intro same next member
                rw [← Bool.not_eq_true]
                exact fun isDigit => escapes ⟨same, next, member, isDigit⟩

/-! ## Octets and how they are spelled -/

/-- An octet that a segment stands for, and whether it is written as a character and not
as a percent escape. -/
structure SpelledOctet where
  octet : UInt8
  plain : Bool

/-- Octets of characters that are written as they are. -/
def plainly (octets : List UInt8) : List SpelledOctet :=
  octets.map (fun octet => ⟨octet, true⟩)

/-- The octets of a segment with their spelling. -/
def spelledOctets : List Char -> List SpelledOctet
  | [] => []
  | '%' :: high :: low :: rest =>
      match hexValue? high, hexValue? low with
      | some first, some second => ⟨UInt8.ofNat (16 * first + second), false⟩ :: spelledOctets rest
      | _, _ => plainly (String.utf8EncodeChar '%') ++ spelledOctets (high :: low :: rest)
  | character :: rest => plainly (String.utf8EncodeChar character) ++ spelledOctets rest

theorem map_octet_plainly (octets : List UInt8) :
    (plainly octets).map SpelledOctet.octet = octets := by
  rw [plainly, List.map_map]
  exact List.map_id octets

theorem spelledOctets_of_hexValues {high low : Char} {first second : Nat}
    (highValue : hexValue? high = some first) (lowValue : hexValue? low = some second)
    (rest : List Char) :
    spelledOctets ('%' :: high :: low :: rest) =
      ⟨UInt8.ofNat (16 * first + second), false⟩ :: spelledOctets rest := by
  rw [spelledOctets, highValue, lowValue]

theorem spelledOctets_cons {character : Char} {rest : List Char}
    (plain : escapedOctet? (character :: rest) = none) :
    spelledOctets (character :: rest) =
      plainly (String.utf8EncodeChar character) ++ spelledOctets rest := by
  unfold escapedOctet? at plain
  split at plain
  · next high low later shape =>
      cases shape
      rw [spelledOctets]
      split at plain
      · cases plain
      · rfl
  · next shape =>
      apply spelledOctets.eq_3
      intro high low later same tail
      exact shape high low later (by rw [same, tail])

/-- A text that does not go on with a hexadecimal digit adds its octets. -/
theorem spelledOctets_append {characters later : List Char}
    (ends : ∀ next ∈ later.head?, hexValue? next = none) :
    spelledOctets (characters ++ later) = spelledOctets characters ++ spelledOctets later := by
  induction characters using segment_induction with
  | nil => rfl
  | escape high low first second rest highValue lowValue inductionHypothesis =>
      rw [spelledOctets_of_hexValues highValue lowValue, List.cons_append, List.cons_append,
        List.cons_append, spelledOctets_of_hexValues highValue lowValue, inductionHypothesis,
        List.cons_append]
  | plain character rest plain inductionHypothesis =>
      have stillPlain : escapedOctet? (character :: (rest ++ later)) = none := by
        rw [Option.eq_none_iff_forall_ne_some]
        intro octet found
        rcases (escapedOctet?_eq_some_iff _ _).mp found with
          ⟨high, low, first, second, others, shape, highValue, lowValue, _⟩
        rcases rest with _ | ⟨next, _ | ⟨afterNext, rest⟩⟩
        · simp only [List.nil_append, List.cons.injEq] at shape
          simp [ends high (by simp [shape.2])] at highValue
        · simp only [List.cons_append, List.nil_append, List.cons.injEq] at shape
          simp [ends low (by simp [shape.2.2])] at lowValue
        · simp only [List.cons_append, List.cons.injEq] at shape
          rcases shape with ⟨rfl, rfl, rfl, _⟩
          simp [escapedOctet?_of_hexValues highValue lowValue] at plain
      rw [spelledOctets_cons plain, List.cons_append, spelledOctets_cons stillPlain,
        inductionHypothesis, List.append_assoc]

/-- Percent-decoding reads the octets and forgets their spelling. -/
theorem percentOctets_eq_map (characters : List Char) :
    percentOctets characters = (spelledOctets characters).map SpelledOctet.octet := by
  induction characters using percentOctets.induct with
  | case1 => rfl
  | case2 high low rest first second lowValue highValue inductionHypothesis =>
      rw [percentOctets, spelledOctets, highValue, lowValue, List.map_cons, inductionHypothesis]
  | case3 high low rest none inductionHypothesis =>
      rw [spelledOctets_cons (escapedOctet?_eq_none none), List.map_append, map_octet_plainly,
        ← inductionHypothesis, percentOctets]
      split
      · next first second highValue lowValue => exact (none _ _ highValue lowValue).elim
      · rfl
  | case4 character rest none inductionHypothesis =>
      rw [percentOctets.eq_3 _ _ none, spelledOctets.eq_3 _ _ none, List.map_append,
        map_octet_plainly, inductionHypothesis]

theorem percentOctets_of_hexValues {high low : Char} {first second : Nat}
    (highValue : hexValue? high = some first) (lowValue : hexValue? low = some second)
    (rest : List Char) :
    percentOctets ('%' :: high :: low :: rest) =
      UInt8.ofNat (16 * first + second) :: percentOctets rest := by
  rw [percentOctets, highValue, lowValue]

theorem percentOctets_cons {character : Char} {rest : List Char}
    (plain : escapedOctet? (character :: rest) = none) :
    percentOctets (character :: rest) =
      String.utf8EncodeChar character ++ percentOctets rest := by
  rw [percentOctets_eq_map, percentOctets_eq_map, spelledOctets_cons plain, List.map_append,
    map_octet_plainly]

/-- How a segment spells an octet: as a character, or as a percent escape. -/
inductive Spells : SpelledOctet -> List Char -> Prop
  | plain (octet : UInt8) : Spells ⟨octet, true⟩ [Char.ofNat octet.toNat]
  | escape {high low : Char} {first second : Nat} (highValue : hexValue? high = some first)
      (lowValue : hexValue? low = some second) :
      Spells ⟨UInt8.ofNat (16 * first + second), false⟩ ['%', high, low]

/-- An ASCII octet that a segment starts with is spelled there in one of these ways. -/
theorem exists_spells {characters : List Char} {spelled : SpelledOctet} {others : List SpelledOctet}
    (starts : spelledOctets characters = spelled :: others) (ascii : spelled.octet.toNat < 0x80) :
    ∃ spelling rest, Spells spelled spelling ∧ characters = spelling ++ rest ∧
      others = spelledOctets rest := by
  induction characters using segment_induction with
  | nil => cases starts
  | escape high low first second rest highValue lowValue _ =>
      rw [spelledOctets_of_hexValues highValue lowValue] at starts
      rcases List.cons.inj starts with ⟨rfl, same⟩
      exact ⟨['%', high, low], rest, .escape highValue lowValue, rfl, same.symm⟩
  | plain character rest plain _ =>
      rw [spelledOctets_cons plain] at starts
      by_cases small : character.toNat < 0x80
      · have value : (UInt8.ofNat character.toNat).toNat = character.toNat :=
          UInt8.toNat_ofNat_of_lt' (show character.toNat < 256 by omega)
        have spells := Spells.plain (UInt8.ofNat character.toNat)
        rw [value, Char.ofNat_toNat] at spells
        rw [Text.utf8EncodeChar_of_ascii small] at starts
        rcases List.cons.inj starts with ⟨rfl, same⟩
        exact ⟨[character], rest, spells, rfl, same.symm⟩
      · exfalso
        have high := Text.high_of_mem_utf8EncodeChar (Nat.le_of_not_lt small)
        cases octets : String.utf8EncodeChar character with
        | nil => exact Text.utf8EncodeChar_ne_nil character octets
        | cons octet later =>
            rw [octets] at starts high
            rcases List.cons.inj starts with ⟨rfl, _⟩
            exact absurd ascii (Nat.not_lt.mpr (high octet (List.mem_cons_self ..)))

end Pointer
end OpenApiTypes
