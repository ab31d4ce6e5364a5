import OpenApiTypes.Proofs.Document.DecodingOrder
import Mathlib.Data.List.Infix

namespace OpenApiTypes
namespace Pointer

/-!
# Tilde escapes hidden by percent escapes

A tilde escape is hidden when its tilde or its digit is written as a percent escape.
Decoding tilde escapes first leaves a hidden one in the result, and this is the only
difference between the two orders.  So a segment that is encoded further keeps its meaning
as long as none of its tilde escapes is hidden by that.
-/

/-- The ways to hide a tilde escape. -/
def hiddenEscapes : List String :=
  ["~%30", "~%31", "%7E0", "%7E1", "%7E%30", "%7E%31", "%7e0", "%7e1", "%7e%30", "%7e%31"]

/-- The octets of a hidden tilde escape stand next to each other. -/
def HidesEscape (octets : List SpelledOctet) : Prop :=
  ∃ tilde digit, [tilde, digit] <:+: octets ∧ IsTildePair tilde digit ∧
    ¬ IsTildeEscape tilde digit

theorem not_hidesEscape_nil : ¬ HidesEscape [] := by
  rintro ⟨tilde, digit, within, _⟩
  simp at within

theorem hidesEscape_cons (first : SpelledOctet) (rest : List SpelledOctet) :
    HidesEscape (first :: rest) ↔
      (∃ second ∈ rest.head?, IsTildePair first second ∧ ¬ IsTildeEscape first second) ∨
        HidesEscape rest := by
  constructor
  · rintro ⟨tilde, digit, within, hidden⟩
    rcases List.infix_cons_iff.mp within with ⟨later, here⟩ | later
    · cases here
      exact Or.inl ⟨digit, rfl, hidden⟩
    · exact Or.inr ⟨tilde, digit, later, hidden⟩
  · rintro (⟨second, starts, hidden⟩ | ⟨tilde, digit, later, hidden⟩)
    · rcases List.head?_eq_some_iff.mp starts with ⟨others, rfl⟩
      exact ⟨first, second, List.infix_cons_iff.mpr (Or.inl ⟨others, rfl⟩), hidden⟩
    · exact ⟨tilde, digit, List.infix_cons_iff.mpr (Or.inr later), hidden⟩

/-- Taking all octets for written as they are finds the hidden tilde escapes, and nothing
else. -/
theorem tildeCount_plainly_eq_iff (octets : List SpelledOctet) :
    tildeCount octets = tildeCount (plainly (octets.map SpelledOctet.octet)) ↔
      ¬ HidesEscape octets := by
  induction octets using tildeCount.induct with
  | case1 tilde digit rest escape inductionHypothesis =>
      have bare : IsTildeEscape ⟨tilde.octet, true⟩ ⟨digit.octet, true⟩ :=
        ⟨escape.1, rfl, rfl⟩
      have later : ¬ ∃ second ∈ rest.head?, IsTildePair digit second ∧
          ¬ IsTildeEscape digit second := by
        rintro ⟨second, _, pair, _⟩
        exact escape.1.ne_tilde pair.1
      have here : ¬ ∃ second ∈ (digit :: rest).head?, IsTildePair tilde second ∧
          ¬ IsTildeEscape tilde second := by
        rintro ⟨second, starts, _, hidden⟩
        cases starts
        exact hidden escape
      rw [tildeCount, if_pos escape, hidesEscape_cons, hidesEscape_cons, or_iff_right here,
        or_iff_right later, ← inductionHypothesis]
      simp only [plainly, List.map_cons, tildeCount, if_pos bare, Nat.add_right_cancel_iff]
  | case2 first second rest none inductionHypothesis =>
      have atLeast := (covers_plainly (second :: rest)).tildeCount.1
      have head : (∃ other ∈ (second :: rest).head?, IsTildePair first other ∧
          ¬ IsTildeEscape first other) ↔ IsTildePair first second := by
        simp [none]
      rw [tildeCount, if_neg none, hidesEscape_cons, head]
      by_cases pair : IsTildePair first second
      · have bare : IsTildeEscape ⟨first.octet, true⟩ ⟨second.octet, true⟩ := ⟨pair, rfl, rfl⟩
        -- The bare octets have one escape more here, and at least as many later on.
        have digitStays : tildeCount (plainly ((second :: rest).map SpelledOctet.octet)) =
            tildeCount (plainly (rest.map SpelledOctet.octet)) :=
          tildeCount_cons (fun other _ escape => pair.ne_tilde escape.1.1)
        rw [digitStays] at atLeast
        refine iff_of_false ?_ (fun absent => absent (Or.inl pair))
        simp only [plainly, List.map_cons, tildeCount, if_pos bare] at atLeast ⊢
        omega
      · have bare : ¬ IsTildeEscape ⟨first.octet, true⟩ ⟨second.octet, true⟩ :=
          fun escape => pair escape.1
        rw [or_iff_right pair, ← inductionHypothesis]
        simp only [plainly, List.map_cons, tildeCount, if_neg bare]
  | case3 last =>
      have single : ¬ HidesEscape [last] := by
        rw [hidesEscape_cons]
        simp [not_hidesEscape_nil]
      exact iff_of_true rfl single
  | case4 => exact iff_of_true rfl not_hidesEscape_nil

/-! ## Where the octets stand in the text -/

theorem suffix_of_suffix_append {front back : List SpelledOctet} {spelled : SpelledOctet}
    {others : List SpelledOctet} (absent : spelled ∉ front)
    (within : spelled :: others <:+ front ++ back) : spelled :: others <:+ back := by
  induction front with
  | nil => exact within
  | cons first rest inductionHypothesis =>
      rw [List.mem_cons, not_or] at absent
      apply inductionHypothesis absent.2
      apply (List.suffix_cons_iff.mp within).resolve_left
      intro here
      exact absent.1 (List.cons.inj here).1

/-- Where the octets go on from an ASCII octet, the text goes on from its spelling. -/
theorem exists_suffix_of_spelledOctets {characters : List Char} {spelled : SpelledOctet}
    {others : List SpelledOctet} (ascii : spelled.octet.toNat < 0x80)
    (within : spelled :: others <:+ spelledOctets characters) :
    ∃ rest, rest <:+ characters ∧ spelledOctets rest = spelled :: others := by
  induction characters using segment_induction with
  | nil => simp [spelledOctets] at within
  | escape high low first second rest highValue lowValue inductionHypothesis =>
      rw [spelledOctets_of_hexValues highValue lowValue] at within
      rcases List.suffix_cons_iff.mp within with here | later
      · refine ⟨_, List.suffix_refl _, ?_⟩
        rw [spelledOctets_of_hexValues highValue lowValue, here]
      · rcases inductionHypothesis later with ⟨found, suffix, octets⟩
        exact ⟨found, suffix.trans (List.suffix_append ['%', high, low] rest), octets⟩
  | plain character rest plain inductionHypothesis =>
      rw [spelledOctets_cons plain] at within
      have further (later : spelled :: others <:+ spelledOctets rest) :
          ∃ found, found <:+ character :: rest ∧ spelledOctets found = spelled :: others := by
        rcases inductionHypothesis later with ⟨found, suffix, octets⟩
        exact ⟨found, suffix.trans (List.suffix_cons character rest), octets⟩
      by_cases small : character.toNat < 0x80
      · rw [Text.utf8EncodeChar_of_ascii small] at within
        rcases List.suffix_cons_iff.mp within with here | later
        · refine ⟨_, List.suffix_refl _, ?_⟩
          rw [spelledOctets_cons plain, Text.utf8EncodeChar_of_ascii small]
          exact here.symm
        · exact further later
      · apply further
        apply suffix_of_suffix_append _ within
        intro member
        rcases List.mem_map.mp member with ⟨octet, inside, rfl⟩
        have high := Text.high_of_mem_utf8EncodeChar (Nat.le_of_not_lt small) octet inside
        exact absurd ascii (Nat.not_lt.mpr high)

/-- A tilde is written as it is, or as an escape with a large or a small letter. -/
theorem Spells.of_tilde {tilde : SpelledOctet} {spelling : List Char}
    (spells : Spells tilde spelling) (octet : tilde.octet = 0x7e) :
    tilde.plain = true ∧ spelling = ['~'] ∨
      tilde.plain = false ∧ (spelling = ['%', '7', 'E'] ∨ spelling = ['%', '7', 'e']) := by
  cases spells with
  | plain other =>
      cases octet
      exact Or.inl ⟨rfl, rfl⟩
  | escape highValue lowValue =>
      rcases hexValues_of_ofNat highValue lowValue octet with ⟨rfl, rfl⟩
      rw [eq_of_decimal highValue (by decide)]
      rcases eq_of_hexValue? lowValue with ⟨impossible, _⟩ | ⟨_, _, rfl | rfl⟩
      · exact absurd impossible (by decide)
      · exact Or.inr ⟨rfl, Or.inl rfl⟩
      · exact Or.inr ⟨rfl, Or.inr rfl⟩

/-- A digit is written as it is, or as an escape. -/
theorem Spells.of_digit {digit : SpelledOctet} {spelling : List Char}
    (spells : Spells digit spelling) (octet : digit.octet = 0x30 ∨ digit.octet = 0x31) :
    digit.plain = true ∧ (spelling = ['0'] ∨ spelling = ['1']) ∨
      digit.plain = false ∧ (spelling = ['%', '3', '0'] ∨ spelling = ['%', '3', '1']) := by
  cases spells with
  | plain other => rcases octet with rfl | rfl <;> simp
  | escape highValue lowValue =>
      rcases octet with octet | octet
      · rcases hexValues_of_ofNat highValue lowValue octet with ⟨rfl, rfl⟩
        rw [eq_of_decimal highValue (by decide), eq_of_decimal lowValue (by decide)]
        exact Or.inr ⟨rfl, Or.inl rfl⟩
      · rcases hexValues_of_ofNat highValue lowValue octet with ⟨rfl, rfl⟩
        rw [eq_of_decimal highValue (by decide), eq_of_decimal lowValue (by decide)]
        exact Or.inr ⟨rfl, Or.inr rfl⟩

theorem mem_hiddenEscapes_of_spells {tilde digit : SpelledOctet} {first second : List Char}
    (spellsTilde : Spells tilde first) (spellsDigit : Spells digit second)
    (pair : IsTildePair tilde digit) (hidden : ¬ IsTildeEscape tilde digit) :
    String.ofList (first ++ second) ∈ hiddenEscapes := by
  rcases spellsTilde.of_tilde pair.1 with ⟨plainTilde, rfl⟩ | ⟨_, rfl | rfl⟩
  · rcases spellsDigit.of_digit pair.2 with ⟨plainDigit, _⟩ | ⟨_, rfl | rfl⟩
    · exact absurd ⟨pair, plainTilde, plainDigit⟩ hidden
    · decide
    · decide
  · rcases spellsDigit.of_digit pair.2 with ⟨_, rfl | rfl⟩ | ⟨_, rfl | rfl⟩ <;> decide
  · rcases spellsDigit.of_digit pair.2 with ⟨_, rfl | rfl⟩ | ⟨_, rfl | rfl⟩ <;> decide

theorem exists_octets_of_mem_hiddenEscapes {text : String} (hidden : text ∈ hiddenEscapes) :
    ∃ tilde digit, (∀ later, spelledOctets (text.toList ++ later) =
      tilde :: digit :: spelledOctets later) ∧ IsTildePair tilde digit ∧
        ¬ IsTildeEscape tilde digit ∧
          ∀ later, ∀ next ∈ (text.toList ++ later).head?, hexValue? next = none := by
  simp only [hiddenEscapes, List.mem_cons, List.not_mem_nil, or_false] at hidden
  rcases hidden with rfl | rfl | rfl | rfl | rfl | rfl | rfl | rfl | rfl | rfl
  all_goals
    refine ⟨_, _, fun _ => rfl, by decide, by decide, ?_⟩
    intro later next starts
    cases starts
    rfl

/-- The octets of a segment hide a tilde escape exactly when its text does. -/
theorem hidesEscape_spelledOctets_iff (characters : List Char) :
    HidesEscape (spelledOctets characters) ↔
      ∃ text ∈ hiddenEscapes, text.toList <:+: characters := by
  constructor
  · rintro ⟨tilde, digit, ⟨before, later, whole⟩, pair, hidden⟩
    have within : tilde :: digit :: later <:+ spelledOctets characters := by
      refine ⟨before, ?_⟩
      rw [← whole, List.append_assoc]
      rfl
    rcases exists_suffix_of_spelledOctets pair.ascii.1 within with ⟨rest, suffix, octets⟩
    rcases exists_spells octets pair.ascii.1 with ⟨first, afterTilde, spellsTilde, rfl, next⟩
    rcases exists_spells next.symm pair.ascii.2 with ⟨second, others, spellsDigit, rfl, _⟩
    refine ⟨_, mem_hiddenEscapes_of_spells spellsTilde spellsDigit pair hidden, ?_⟩
    rw [String.toList_ofList]
    apply List.IsInfix.trans _ suffix.isInfix
    rw [← List.append_assoc]
    exact (List.prefix_append ..).isInfix
  · rintro ⟨text, hidden, before, later, rfl⟩
    rcases exists_octets_of_mem_hiddenEscapes hidden with ⟨tilde, digit, octets, pair, escape, head⟩
    refine ⟨tilde, digit, ⟨spelledOctets before, spelledOctets later, ?_⟩, pair, escape⟩
    rw [List.append_assoc, List.append_assoc, spelledOctets_append (head later), octets]
    rfl

end Pointer
end OpenApiTypes
