import OpenApiTypes.Proofs.Document.PointerDecoding
import Mathlib.Data.List.Forall2

namespace OpenApiTypes
namespace Pointer

/-!
# The order of the two decodings

A pointer in a URI fragment is percent-decoded first, and the tilde escapes are decoded in
what comes out.  Decoding a segment here does it the other way round.  The two orders see
the same octets, but the second one misses the tilde escapes that are themselves written
with percent escapes.
-/

/-- Decode a segment in the order of URI fragments: percent escapes, then tilde escapes. -/
def fragmentDecode (segment : String) : String :=
  String.ofList (tildeDecode (percentDecode segment.toList))

/-! ## Tilde escapes among octets -/

/-- The octets of a tilde and of a digit that it escapes something with. -/
def IsTildePair (first second : SpelledOctet) : Prop :=
  first.octet = 0x7e ∧ (second.octet = 0x30 ∨ second.octet = 0x31)

instance (first second : SpelledOctet) : Decidable (IsTildePair first second) :=
  inferInstanceAs (Decidable (_ ∧ _))

/-- A tilde escape whose two characters are written as they are. -/
def IsTildeEscape (first second : SpelledOctet) : Prop :=
  IsTildePair first second ∧ first.plain = true ∧ second.plain = true

instance (first second : SpelledOctet) : Decidable (IsTildeEscape first second) :=
  inferInstanceAs (Decidable (_ ∧ _))

/-- The octet that a tilde and this digit stand for. -/
def tildeOctet (digit : UInt8) : UInt8 :=
  if digit = 0x30 then 0x7e else 0x2f

/-- The octets after the tilde escapes are decoded. -/
def tildeOctets : List SpelledOctet -> List UInt8
  | first :: second :: rest =>
      if IsTildeEscape first second then tildeOctet second.octet :: tildeOctets rest
      else first.octet :: tildeOctets (second :: rest)
  | [last] => [last.octet]
  | [] => []

/-- The number of tilde escapes. -/
def tildeCount : List SpelledOctet -> Nat
  | first :: second :: rest =>
      if IsTildeEscape first second then tildeCount rest + 1 else tildeCount (second :: rest)
  | [_] => 0
  | [] => 0

theorem tildeOctets_cons {first : SpelledOctet} {rest : List SpelledOctet}
    (none : ∀ second ∈ rest.head?, ¬ IsTildeEscape first second) :
    tildeOctets (first :: rest) = first.octet :: tildeOctets rest := by
  cases rest with
  | nil => rfl
  | cons second later => rw [tildeOctets, if_neg (none second rfl)]

theorem tildeCount_cons {first : SpelledOctet} {rest : List SpelledOctet}
    (none : ∀ second ∈ rest.head?, ¬ IsTildeEscape first second) :
    tildeCount (first :: rest) = tildeCount rest := by
  cases rest with
  | nil => rfl
  | cons second later => rw [tildeCount, if_neg (none second rfl)]

theorem not_isTildeEscape_of_ne {first : SpelledOctet} (other : first.octet ≠ 0x7e)
    (second : SpelledOctet) : ¬ IsTildeEscape first second :=
  fun escape => other escape.1.1

theorem IsTildePair.ne_tilde {first second : SpelledOctet} (pair : IsTildePair first second) :
    second.octet ≠ 0x7e := by
  rcases pair.2 with digit | digit <;> simp [digit]

theorem IsTildePair.ascii {first second : SpelledOctet} (pair : IsTildePair first second) :
    first.octet.toNat < 0x80 ∧ second.octet.toNat < 0x80 := by
  rcases pair.2 with digit | digit <;> simp [pair.1, digit]

theorem tildeOctets_append {octets : List SpelledOctet}
    (absent : ∀ spelled ∈ octets, spelled.octet ≠ 0x7e) (rest : List SpelledOctet) :
    tildeOctets (octets ++ rest) = octets.map SpelledOctet.octet ++ tildeOctets rest := by
  induction octets with
  | nil => rfl
  | cons spelled later inductionHypothesis =>
      rw [List.forall_mem_cons] at absent
      rw [List.cons_append,
        tildeOctets_cons (fun second _ => not_isTildeEscape_of_ne absent.1 second),
        inductionHypothesis absent.2, List.map_cons, List.cons_append]

theorem tildeCount_append {octets : List SpelledOctet}
    (absent : ∀ spelled ∈ octets, spelled.octet ≠ 0x7e) (rest : List SpelledOctet) :
    tildeCount (octets ++ rest) = tildeCount rest := by
  induction octets with
  | nil => rfl
  | cons spelled later inductionHypothesis =>
      rw [List.forall_mem_cons] at absent
      rw [List.cons_append,
        tildeCount_cons (fun second _ => not_isTildeEscape_of_ne absent.1 second),
        inductionHypothesis absent.2]

/-! ## Both orders as octets -/

theorem isTildeEscape_of_isTildeDigit {digit : Char} (isDigit : isTildeDigit digit = true) :
    IsTildeEscape ⟨0x7e, true⟩ ⟨UInt8.ofNat digit.toNat, true⟩ := by
  rcases (isTildeDigit_iff digit).mp isDigit with rfl | rfl <;> decide

theorem spelledOctets_tildeEscape {digit : Char} (isDigit : isTildeDigit digit = true)
    (rest : List Char) :
    spelledOctets ('~' :: digit :: rest) =
      ⟨0x7e, true⟩ :: ⟨UInt8.ofNat digit.toNat, true⟩ :: spelledOctets rest := by
  rw [spelledOctets_cons (escapedOctet?_of_ne (by decide) _)]
  rcases (isTildeDigit_iff digit).mp isDigit with rfl | rfl
  · rw [spelledOctets_cons (escapedOctet?_of_ne (by decide) _)]
    rfl
  · rw [spelledOctets_cons (escapedOctet?_of_ne (by decide) _)]
    rfl

theorem ne_tilde_of_mem_plainly {character : Char} (other : character ≠ '~') :
    ∀ spelled ∈ plainly (String.utf8EncodeChar character), spelled.octet ≠ 0x7e := by
  intro spelled member same
  rcases List.mem_map.mp member with ⟨octet, inside, rfl⟩
  subst same
  by_cases ascii : character.toNat < 0x80
  · rw [Text.utf8EncodeChar_of_ascii ascii, List.mem_singleton] at inside
    have value := congrArg UInt8.toNat inside
    rw [UInt8.toNat_ofNat_of_lt' (show character.toNat < 256 by omega)] at value
    apply other
    rw [← Char.ofNat_toNat character, ← value]
    rfl
  · have high := Text.high_of_mem_utf8EncodeChar (Nat.le_of_not_lt ascii) _ inside
    exact absurd high (by decide)

/-- A tilde that escapes nothing escapes nothing among the octets either. -/
theorem not_isTildeEscape_of_head {characters : List Char}
    (other : ∀ next ∈ characters.head?, isTildeDigit next = false) {tilde : SpelledOctet} :
    ∀ spelled ∈ (spelledOctets characters).head?, ¬ IsTildeEscape tilde spelled := by
  rintro ⟨octet, plain⟩ starts escape
  rcases List.head?_eq_some_iff.mp starts with ⟨others, shape⟩
  rcases exists_spells shape escape.1.ascii.2 with ⟨spelling, rest, spells, rfl, _⟩
  rcases escape with ⟨⟨_, digit⟩, _, rfl⟩
  cases spells
  have notDigit := other _ rfl
  rcases digit with rfl | rfl <;> cases notDigit

/-- The tilde escapes of a segment are those of its octets that are written as they are. -/
theorem percentOctets_tildeDecode (characters : List Char) :
    percentOctets (tildeDecode characters) = tildeOctets (spelledOctets characters) := by
  induction characters using escape_induction with
  | nil => rfl
  | percent high low first second rest highValue lowValue inductionHypothesis =>
      have notPlain (spelled : SpelledOctet) :
          ¬ IsTildeEscape ⟨UInt8.ofNat (16 * first + second), false⟩ spelled :=
        fun escape => Bool.false_ne_true escape.2.1
      rw [tildeDecode_of_hexValues highValue lowValue,
        percentOctets_of_hexValues highValue lowValue, inductionHypothesis,
        spelledOctets_of_hexValues highValue lowValue,
        tildeOctets_cons (fun spelled _ => notPlain spelled)]
  | tilde digit rest isDigit inductionHypothesis =>
      rw [tildeDecode_escape isDigit, spelledOctets_tildeEscape isDigit, tildeOctets,
        if_pos (isTildeEscape_of_isTildeDigit isDigit), ← inductionHypothesis]
      rcases (isTildeDigit_iff digit).mp isDigit with rfl | rfl
      · exact percentOctets_cons (escapedOctet?_of_ne (by decide) _)
      · exact percentOctets_cons (escapedOctet?_of_ne (by decide) _)
  | plain character rest plain notEscape inductionHypothesis =>
      rw [tildeDecode_cons notEscape, percentOctets_cons (escapedOctet?_tildeDecode plain),
        spelledOctets_cons plain, inductionHypothesis]
      -- A tilde that is no escape has no digit after it as a character, but it can have one
      -- as a percent escape: then the octets are a pair and still no escape.
      by_cases tilde : character = '~'
      · subst tilde
        have octets : String.utf8EncodeChar '~' = [0x7e] := rfl
        rw [octets]
        have noEscape := @not_isTildeEscape_of_head rest (notEscape rfl) ⟨0x7e, true⟩
        exact (tildeOctets_cons noEscape).symm
      · rw [tildeOctets_append (ne_tilde_of_mem_plainly tilde), map_octet_plainly]

theorem tilde_notMem_broken (state : Option Text.PartialScalar) : '~' ∉ Text.broken state := by
  cases state with
  | none => exact List.not_mem_nil
  | some scalar => exact show '~' ∉ [Text.replacement] by decide

theorem tildeDecode_broken (state : Option Text.PartialScalar) :
    tildeDecode (Text.broken state) = Text.broken state := by
  have decoded := tildeDecode_append (tilde_notMem_broken state) []
  rwa [tildeDecode_nil, List.append_nil] at decoded

theorem tilde_notMem_feed {state : Option Text.PartialScalar} {octet : UInt8}
    (wide : Text.IsWideState state) (other : octet ≠ 0x7e) :
    '~' ∉ (Text.feed state octet).1 := by
  by_cases ascii : octet.toNat < 0x80
  · rw [Text.feed_of_ascii wide ascii, List.mem_append, List.mem_singleton, not_or]
    refine ⟨tilde_notMem_broken state, ?_⟩
    intro same
    have value : 0x7e = (Char.ofNat octet.toNat).toNat := congrArg Char.toNat same
    rw [Text.toNat_eq_of_isValidChar (Or.inl (show octet.toNat < 0xd800 by omega))] at value
    exact other (UInt8.toNat_inj.mp value.symm)
  · intro member
    have beyond := (Text.feed_of_high wide (Nat.le_of_not_lt ascii)).2 '~' member
    exact absurd beyond (by unfold Text.IsBeyondAscii; decide)

/-- An octet that starts no tilde escape is read before the escapes after it are decoded. -/
theorem tildeDecode_lossyFrom_cons {state : Option Text.PartialScalar}
    (wide : Text.IsWideState state) {octet : UInt8} {rest : List UInt8}
    (none : octet = 0x7e -> ∀ next ∈ rest.head?, next ≠ 0x30 ∧ next ≠ 0x31) :
    tildeDecode (Text.lossyFrom state (octet :: rest)) =
      (Text.feed state octet).1 ++
        tildeDecode (Text.lossyFrom (Text.feed state octet).2 rest) := by
  rw [Text.lossyFrom_cons]
  by_cases tilde : octet = 0x7e
  · have fed : Text.feed state octet = (Text.broken state ++ ['~'], .none) := by
      rw [tilde]
      exact Text.feed_of_ascii wide (by decide)
    rw [fed, List.append_assoc, tildeDecode_append (tilde_notMem_broken state),
      List.singleton_append, tildeDecode_cons, List.append_assoc, List.singleton_append]
    rintro - next starts
    rw [← Bool.not_eq_true, isTildeDigit_iff]
    intro digit
    have ascii : next.toNat < 0x80 := by
      rcases digit with rfl | rfl <;> decide
    rcases Text.head?_of_head?_lossyFrom ascii starts with ⟨other, first, same⟩
    have different := none tilde other first
    rcases digit with rfl | rfl
    · exact different.1 (UInt8.toNat_inj.mp same)
    · exact different.2 (UInt8.toNat_inj.mp same)
  · exact tildeDecode_append (tilde_notMem_feed wide tilde) _

/-- Tilde escapes in octets that have been read are those of octets that are all written as
they are. -/
theorem tildeDecode_lossyFrom {state : Option Text.PartialScalar} (wide : Text.IsWideState state)
    {octets : List SpelledOctet} (plain : ∀ spelled ∈ octets, spelled.plain = true) :
    tildeDecode (Text.lossyFrom state (octets.map SpelledOctet.octet)) =
      Text.lossyFrom state (tildeOctets octets) := by
  induction octets using tildeCount.induct generalizing state with
  | case1 first second rest escape inductionHypothesis =>
      rw [List.forall_mem_cons, List.forall_mem_cons] at plain
      have later := inductionHypothesis Text.isWideState_none plain.2.2
      have tilde : first.octet = 0x7e := escape.1.1
      rw [tildeOctets, if_pos escape, List.map_cons, List.map_cons, tilde,
        Text.lossyFrom_cons_of_ascii wide (by decide),
        tildeDecode_append (tilde_notMem_broken state)]
      rcases escape.1.2 with digit | digit
      · rw [digit, Text.lossyFrom_cons_of_ascii Text.isWideState_none (by decide),
          Text.lossyFrom_cons_of_ascii wide (by decide), ← later]
        exact congrArg _ (tildeDecode_escape (by decide) _)
      · rw [digit, Text.lossyFrom_cons_of_ascii Text.isWideState_none (by decide),
          Text.lossyFrom_cons_of_ascii wide (by decide), ← later]
        exact congrArg _ (tildeDecode_escape (by decide) _)
  | case2 first second rest none inductionHypothesis =>
      rw [List.forall_mem_cons] at plain
      have later := inductionHypothesis (Text.isWideState_feed wide first.octet) plain.2
      rw [tildeOctets, if_neg none, Text.lossyFrom_cons, ← later]
      apply tildeDecode_lossyFrom_cons wide
      intro tilde next starts
      rw [← Option.some.inj starts]
      have secondPlain := plain.2 second (List.mem_cons_self ..)
      exact ⟨fun digit => none ⟨⟨tilde, Or.inl digit⟩, plain.1, secondPlain⟩,
        fun digit => none ⟨⟨tilde, Or.inr digit⟩, plain.1, secondPlain⟩⟩
  | case3 last =>
      rw [tildeOctets, Text.lossyFrom_cons, Text.lossyFrom_nil, ← tildeDecode_broken,
        ← Text.lossyFrom_nil]
      refine tildeDecode_lossyFrom_cons wide ?_
      intro tilde next impossible
      cases impossible
  | case4 => rw [tildeOctets, List.map_nil, Text.lossyFrom_nil, tildeDecode_broken]

/-- Every tilde escape that is decoded makes the text shorter by one character. -/
theorem length_lossyFrom_tildeOctets {state : Option Text.PartialScalar}
    (wide : Text.IsWideState state) (octets : List SpelledOctet) :
    (Text.lossyFrom state (tildeOctets octets)).length + tildeCount octets =
      (Text.lossyFrom state (octets.map SpelledOctet.octet)).length := by
  induction octets using tildeCount.induct generalizing state with
  | case1 first second rest escape inductionHypothesis =>
      have ascii := escape.1.ascii
      have value : (tildeOctet second.octet).toNat < 0x80 := by
        unfold tildeOctet
        split <;> decide
      have rest := inductionHypothesis Text.isWideState_none
      rw [tildeOctets, if_pos escape, tildeCount, if_pos escape, List.map_cons, List.map_cons,
        Text.lossyFrom_cons_of_ascii wide value, Text.lossyFrom_cons_of_ascii wide ascii.1,
        Text.lossyFrom_cons_of_ascii Text.isWideState_none ascii.2]
      simp only [List.length_append, List.length_cons, Text.broken, List.length_nil]
      omega
  | case2 first second rest none inductionHypothesis =>
      have later := inductionHypothesis (Text.isWideState_feed wide first.octet)
      rw [tildeOctets, if_neg none, tildeCount, if_neg none, List.map_cons, Text.lossyFrom_cons,
        Text.lossyFrom_cons, List.length_append, List.length_append, ← later]
      omega
  | case3 last => rfl
  | case4 => rfl

/-- The two orders read the same octets, and the second takes them all for written as they
are. -/
theorem decodeChars_eq (characters : List Char) :
    decodeChars characters = Text.lossyFrom none (tildeOctets (spelledOctets characters)) := by
  rw [decodeChars, percentDecode, percentOctets_tildeDecode]

/-- The octets of a segment, all taken for written as they are. -/
def unspelledOctets (characters : List Char) : List SpelledOctet :=
  plainly ((spelledOctets characters).map SpelledOctet.octet)

theorem tildeDecode_percentDecode (characters : List Char) :
    tildeDecode (percentDecode characters) =
      Text.lossyFrom none (tildeOctets (unspelledOctets characters)) := by
  have plain : ∀ spelled ∈ unspelledOctets characters, spelled.plain = true := by
    intro spelled member
    rcases List.mem_map.mp member with ⟨octet, _, rfl⟩
    rfl
  rw [percentDecode, percentOctets_eq_map, ← tildeDecode_lossyFrom Text.isWideState_none plain,
    unspelledOctets, map_octet_plainly]

/-! ## Octets with more or fewer escapes -/

/-- The same octet, which the second spelling writes as it is if the first does. -/
def CoversOctet (first second : SpelledOctet) : Prop :=
  first.octet = second.octet ∧ (first.plain = true -> second.plain = true)

/-- The same octets, where the second list writes every octet as it is that the first
does. -/
def Covers : List SpelledOctet -> List SpelledOctet -> Prop :=
  List.Forall₂ CoversOctet

theorem IsTildeEscape.of_covers {tilde digit otherTilde otherDigit : SpelledOctet}
    (escape : IsTildeEscape otherTilde otherDigit) (sameTilde : CoversOctet otherTilde tilde)
    (sameDigit : CoversOctet otherDigit digit) : IsTildeEscape tilde digit := by
  refine ⟨⟨?_, ?_⟩, sameTilde.2 escape.2.1, sameDigit.2 escape.2.2⟩
  · rw [← sameTilde.1]
    exact escape.1.1
  · rw [← sameDigit.1]
    exact escape.1.2

theorem Covers.map_octet {first second : List SpelledOctet} (covers : Covers first second) :
    first.map SpelledOctet.octet = second.map SpelledOctet.octet := by
  induction covers with
  | nil => rfl
  | cons same _ inductionHypothesis =>
      rw [List.map_cons, List.map_cons, same.1, inductionHypothesis]

theorem covers_plainly (octets : List SpelledOctet) :
    Covers octets (plainly (octets.map SpelledOctet.octet)) := by
  induction octets with
  | nil => exact .nil
  | cons spelled rest inductionHypothesis =>
      exact .cons ⟨rfl, fun _ => rfl⟩ inductionHypothesis

/-- With more octets written as they are, there are at least as many tilde escapes, and
only more of them make a difference. -/
theorem Covers.tildeCount {first second : List SpelledOctet} (covers : Covers first second) :
    Pointer.tildeCount first ≤ Pointer.tildeCount second ∧
      (Pointer.tildeCount first = Pointer.tildeCount second ->
        tildeOctets first = tildeOctets second) := by
  induction second using tildeCount.induct generalizing first with
  | case1 tilde digit rest escape inductionHypothesis =>
      rcases covers with _ | ⟨sameTilde, _ | ⟨sameDigit, covered⟩⟩
      next otherTilde otherDigit others =>
        have later := inductionHypothesis covered
        by_cases kept : IsTildeEscape otherTilde otherDigit
        · simp only [Pointer.tildeCount, tildeOctets, if_pos escape, if_pos kept,
            Nat.add_le_add_iff_right, Nat.add_right_cancel_iff, sameDigit.1, List.cons.injEq,
            true_and]
          exact later
        · -- The first list has lost this escape, and its digit starts no other one.
          have digitStays := @tildeCount_cons otherDigit others
            (fun spelled _ => not_isTildeEscape_of_ne (by
              rw [sameDigit.1]
              exact escape.1.ne_tilde) spelled)
          rw [Pointer.tildeCount, if_neg kept, digitStays, Pointer.tildeCount, if_pos escape]
          have below := later.1
          exact ⟨by omega, by omega⟩
  | case2 tilde digit rest none inductionHypothesis =>
      rcases covers with _ | ⟨sameTilde, covered⟩
      next otherTilde others =>
        have later := inductionHypothesis covered
        have stays : ∀ spelled ∈ others.head?, ¬ IsTildeEscape otherTilde spelled := by
          rcases covered with _ | ⟨sameDigit, _⟩
          intro spelled starts escape
          rw [← Option.some.inj starts] at escape
          exact none (escape.of_covers sameTilde sameDigit)
        rw [tildeCount_cons stays, tildeOctets_cons stays, Pointer.tildeCount, if_neg none,
          tildeOctets, if_neg none, sameTilde.1, List.cons.injEq]
        exact ⟨later.1, fun same => ⟨rfl, later.2 same⟩⟩
  | case3 last =>
      rcases covers with _ | ⟨same, _ | _⟩
      exact ⟨Nat.le_refl 0, fun _ => congrArg (fun octet => [octet]) same.1⟩
  | case4 =>
      cases covers
      exact ⟨Nat.le_refl 0, fun _ => rfl⟩

/-- Two spellings of the same octets become the same text exactly when they have the same
number of tilde escapes. -/
theorem Covers.lossyFrom_iff {first second : List SpelledOctet} (covers : Covers first second) :
    Text.lossyFrom none (tildeOctets first) = Text.lossyFrom none (tildeOctets second) ↔
      Pointer.tildeCount first = Pointer.tildeCount second := by
  constructor
  · intro same
    have lengthFirst := length_lossyFrom_tildeOctets Text.isWideState_none first
    have lengthSecond := length_lossyFrom_tildeOctets Text.isWideState_none second
    rw [covers.map_octet, same] at lengthFirst
    omega
  · intro same
    rw [covers.tildeCount.2 same]

end Pointer
end OpenApiTypes
