import OpenApiTypes.Text.Utf8
import Mathlib.Algebra.Group.Nat.Defs
import Mathlib.Data.List.Basic

namespace OpenApiTypes
namespace Text

/-!
# What octets become when they are read with replacement

Reading goes through the octets once, and each octet adds some characters and leaves a
character open or not.  Two facts about a single octet carry over to whole texts.  An ASCII
octet always becomes its own character, whatever stands before it, and no other octet ever
becomes an ASCII character that is not NUL.  And the octets of a character, read one after
the other, become that character.
-/

/-! ## One octet -/

/-- The characters that an octet adds between characters, and the character that it leaves
open. -/
def Opening.outcome : Opening -> List Char × Option PartialScalar
  | .complete character => ([character], none)
  | .begun scalar => ([], some scalar)
  | .refused => ([replacement], none)

/-- What is written for a character that ends too early. -/
def broken : Option PartialScalar -> List Char
  | none => []
  | some _ => [replacement]

/-- The characters that an octet adds, and the character that it leaves open. -/
def feed : Option PartialScalar -> UInt8 -> List Char × Option PartialScalar
  | none, octet => (opening octet).outcome
  | some scalar, octet =>
      if scalar.accepts octet then
        if scalar.owed ≤ 1 then ([Char.ofNat (scalar.extend octet).value], none)
        else ([], some (scalar.extend octet))
      else (replacement :: (opening octet).outcome.1, (opening octet).outcome.2)

theorem lossyFrom_nil (state : Option PartialScalar) : lossyFrom state [] = broken state := by
  cases state <;> rfl

theorem lossyFrom_cons (state : Option PartialScalar) (octet : UInt8) (rest : List UInt8) :
    lossyFrom state (octet :: rest) =
      (feed state octet).1 ++ lossyFrom (feed state octet).2 rest := by
  cases state with
  | none =>
      rw [lossyFrom, feed]
      cases opening octet <;> rfl
  | some scalar =>
      rw [lossyFrom, feed]
      by_cases accepted : scalar.accepts octet = true
      · rw [if_pos accepted, if_pos accepted]
        split <;> rfl
      · rw [if_neg accepted, if_neg accepted]
        cases opening octet <;> rfl

/-! ## ASCII octets and others -/

/-- Every number that an open character can still become is that of a character beyond
ASCII, and no ASCII octet continues it. -/
structure PartialScalar.IsWide (scalar : PartialScalar) : Prop where
  owes : 1 ≤ scalar.owed
  least_le : 0x80 ≤ scalar.least.toNat
  beyond : forall number : Nat,
    (scalar.value * 64 + (scalar.least.toNat - 0x80)) * 64 ^ (scalar.owed - 1) ≤ number ->
    number < (scalar.value * 64 + (scalar.greatest.toNat - 0x80) + 1) * 64 ^ (scalar.owed - 1) ->
    0x80 ≤ number ∧ number.isValidChar

/-- A reading is between characters, or in a wide one. -/
def IsWideState (state : Option PartialScalar) : Prop :=
  ∀ scalar ∈ state, scalar.IsWide

theorem isWideState_none : IsWideState none :=
  fun _ impossible => nomatch impossible

theorem isWideState_some {scalar : PartialScalar} (wide : scalar.IsWide) :
    IsWideState (some scalar) := by
  intro other same
  cases same
  exact wide

theorem accepts_iff (scalar : PartialScalar) (octet : UInt8) :
    scalar.accepts octet = true ↔
      scalar.least.toNat ≤ octet.toNat ∧ octet.toNat ≤ scalar.greatest.toNat := by
  rw [PartialScalar.accepts, Bool.and_eq_true, decide_eq_true_iff, decide_eq_true_iff,
    UInt8.le_iff_toNat_le, UInt8.le_iff_toNat_le]

theorem feed_of_ascii {state : Option PartialScalar} {octet : UInt8} (wide : IsWideState state)
    (ascii : octet.toNat < 0x80) :
    feed state octet = (broken state ++ [Char.ofNat octet.toNat], none) := by
  have opened : opening octet = .complete (Char.ofNat octet.toNat) := by
    unfold opening
    rw [if_pos ascii]
  cases state with
  | none =>
      rw [feed, opened]
      rfl
  | some scalar =>
      have refused : ¬ scalar.accepts octet = true := by
        have least := (wide scalar rfl).least_le
        rw [accepts_iff]
        omega
      rw [feed, if_neg refused, opened]
      rfl

/-- A character that has begun is wide when all the numbers that it can become, from the
least to the greatest, are those of characters beyond ASCII. -/
theorem isWide_begun {owed value octets : Nat} {least greatest : UInt8} (owes : 1 ≤ owed)
    (least_le : 0x80 ≤ least.toNat)
    (lower : 0x80 ≤ (value * 64 + (least.toNat - 0x80)) * 64 ^ (owed - 1))
    (upper :
      (value * 64 + (greatest.toNat - 0x80) + 1) * 64 ^ (owed - 1) ≤ 0xd800 ∨
      0xe000 ≤ (value * 64 + (least.toNat - 0x80)) * 64 ^ (owed - 1) ∧
        (value * 64 + (greatest.toNat - 0x80) + 1) * 64 ^ (owed - 1) ≤ 0x110000) :
    PartialScalar.IsWide ⟨owed, least, greatest, value, octets⟩ := by
  refine ⟨owes, least_le, ?_⟩
  intro number above below
  refine ⟨Nat.le_trans lower above, ?_⟩
  rcases upper with low | ⟨afterSurrogates, within⟩
  · exact Or.inl (Nat.lt_of_lt_of_le below low)
  · have later := Nat.le_trans afterSurrogates above
    exact Or.inr ⟨Nat.lt_of_succ_le later, Nat.lt_of_lt_of_le below within⟩

/-- An octet beyond ASCII opens a wide character or is refused. -/
theorem opening_of_high {octet : UInt8} (high : 0x80 ≤ octet.toNat) :
    opening octet = .refused ∨ ∃ scalar, opening octet = .begun scalar ∧ scalar.IsWide := by
  have small := octet.toNat_lt
  unfold opening
  dsimp only
  generalize octet.toNat = value at high small
  have begun {scalar : PartialScalar} (wide : scalar.IsWide) :
      Opening.begun scalar = .refused ∨
        ∃ other, Opening.begun scalar = .begun other ∧ other.IsWide :=
    Or.inr ⟨scalar, rfl, wide⟩
  rw [if_neg (Nat.not_lt.mpr high)]
  by_cases continuation : value < 0xc2
  · exact Or.inl (if_pos continuation)
  rw [if_neg continuation]
  by_cases two : value < 0xe0
  · rw [if_pos two]
    exact begun (isWide_begun (by decide) (by decide) (by simp; omega) (by simp; omega))
  rw [if_neg two]
  by_cases leastThree : value = 0xe0
  · rw [if_pos leastThree]
    exact begun (isWide_begun (by decide) (by decide) (by decide) (by decide))
  rw [if_neg leastThree]
  by_cases surrogates : value = 0xed
  · rw [if_pos surrogates]
    exact begun (isWide_begun (by decide) (by decide) (by decide) (by decide))
  rw [if_neg surrogates]
  by_cases three : value < 0xf0
  · rw [if_pos three]
    exact begun (isWide_begun (by decide) (by decide) (by simp; omega) (by simp; omega))
  rw [if_neg three]
  by_cases leastFour : value = 0xf0
  · rw [if_pos leastFour]
    exact begun (isWide_begun (by decide) (by decide) (by decide) (by decide))
  rw [if_neg leastFour]
  by_cases four : value < 0xf4
  · rw [if_pos four]
    exact begun (isWide_begun (by decide) (by decide) (by simp; omega) (by simp; omega))
  rw [if_neg four]
  by_cases greatestFour : value = 0xf4
  · rw [if_pos greatestFour]
    exact begun (isWide_begun (by decide) (by decide) (by decide) (by decide))
  · exact Or.inl (if_neg greatestFour)

theorem isWideState_opening {octet : UInt8} (high : 0x80 ≤ octet.toNat) :
    IsWideState (opening octet).outcome.2 := by
  rcases opening_of_high high with refused | ⟨scalar, begun, wide⟩
  · rw [refused]
    exact isWideState_none
  · rw [begun]
    exact isWideState_some wide

theorem toNat_eq_of_isValidChar {number : Nat} (valid : number.isValidChar) :
    (Char.ofNat number).toNat = number := by
  unfold Char.ofNat
  rw [dif_pos valid]
  rfl

/-- A continuation keeps an open character wide, and the last one completes a character
beyond ASCII. -/
theorem PartialScalar.IsWide.extend {scalar : PartialScalar} {octet : UInt8}
    (wide : scalar.IsWide) (accepted : scalar.accepts octet = true) :
    (scalar.owed ≤ 1 -> 0x80 ≤ (Char.ofNat (scalar.extend octet).value).toNat) ∧
      (¬ scalar.owed ≤ 1 -> (scalar.extend octet).IsWide) := by
  rcases (accepts_iff scalar octet).mp accepted with ⟨above, below⟩
  have lower : scalar.value * 64 + (scalar.least.toNat - 0x80) ≤ (scalar.extend octet).value :=
    Nat.add_le_add_left (Nat.sub_le_sub_right above 0x80) _
  have upper : (scalar.extend octet).value + 1 ≤
      scalar.value * 64 + (scalar.greatest.toNat - 0x80) + 1 :=
    Nat.succ_le_succ (Nat.add_le_add_left (Nat.sub_le_sub_right below 0x80) _)
  constructor
  · intro last
    have unit : 64 ^ (scalar.owed - 1) = 1 := by
      rw [Nat.sub_eq_zero_of_le last, Nat.pow_zero]
    have complete := wide.beyond (scalar.extend octet).value
    rw [unit, Nat.mul_one, Nat.mul_one] at complete
    have character := complete lower upper
    rw [toNat_eq_of_isValidChar character.2]
    exact character.1
  · intro more
    have unit : 64 ^ (scalar.owed - 1) = 64 * 64 ^ ((scalar.extend octet).owed - 1) := by
      change _ = 64 * 64 ^ (scalar.owed - 1 - 1)
      rw [← Nat.pow_succ']
      congr 1
      omega
    have least : (scalar.extend octet).least.toNat = 0x80 := by simp [PartialScalar.extend]
    have greatest : (scalar.extend octet).greatest.toNat = 0xbf := by simp [PartialScalar.extend]
    refine ⟨?_, Nat.le_of_eq least.symm, ?_⟩
    · change 1 ≤ scalar.owed - 1
      omega
    · rw [least, greatest]
      intro number numberAbove numberBelow
      apply wide.beyond number
      · calc
          _ ≤ (scalar.extend octet).value * 64 ^ (scalar.owed - 1) :=
            Nat.mul_le_mul_right _ lower
          _ = ((scalar.extend octet).value * 64 + (0x80 - 0x80)) *
              64 ^ ((scalar.extend octet).owed - 1) := by
            rw [unit, Nat.sub_self, Nat.add_zero, Nat.mul_assoc]
          _ ≤ number := numberAbove
      · calc
          number < ((scalar.extend octet).value * 64 + (0xbf - 0x80) + 1) *
              64 ^ ((scalar.extend octet).owed - 1) := numberBelow
          _ = ((scalar.extend octet).value + 1) * 64 ^ (scalar.owed - 1) := by
            rw [unit, ← Nat.mul_assoc, Nat.add_mul _ 1 64]
          _ ≤ _ := Nat.mul_le_mul_right _ upper

/-- A character beyond ASCII. -/
def IsBeyondAscii (character : Char) : Prop :=
  0x80 ≤ character.toNat

theorem isBeyondAscii_replacement : IsBeyondAscii replacement := by
  unfold IsBeyondAscii
  decide

theorem isBeyondAscii_of_mem_opening {octet : UInt8} (high : 0x80 ≤ octet.toNat) :
    ∀ character ∈ (opening octet).outcome.1, IsBeyondAscii character := by
  rcases opening_of_high high with refused | ⟨scalar, begun, _⟩
  · rw [refused]
    intro character member
    rw [List.mem_singleton.mp member]
    exact isBeyondAscii_replacement
  · rw [begun]
    exact fun _ member => nomatch member

/-- An octet beyond ASCII adds only characters beyond ASCII, and leaves a wide character
open or none. -/
theorem feed_of_high {state : Option PartialScalar} {octet : UInt8} (wide : IsWideState state)
    (high : 0x80 ≤ octet.toNat) :
    IsWideState (feed state octet).2 ∧
      ∀ character ∈ (feed state octet).1, IsBeyondAscii character := by
  cases state with
  | none => exact ⟨isWideState_opening high, isBeyondAscii_of_mem_opening high⟩
  | some scalar =>
      rw [feed]
      by_cases accepted : scalar.accepts octet = true
      · rw [if_pos accepted]
        have continued := (wide scalar rfl).extend accepted
        by_cases last : scalar.owed ≤ 1
        · rw [if_pos last]
          refine ⟨isWideState_none, ?_⟩
          intro character member
          rw [List.mem_singleton.mp member]
          exact continued.1 last
        · rw [if_neg last]
          exact ⟨isWideState_some (continued.2 last), fun _ member => nomatch member⟩
      · rw [if_neg accepted]
        refine ⟨isWideState_opening high, ?_⟩
        intro character member
        rcases List.mem_cons.mp member with rfl | opened
        · exact isBeyondAscii_replacement
        · exact isBeyondAscii_of_mem_opening high character opened

theorem isWideState_feed {state : Option PartialScalar} (wide : IsWideState state)
    (octet : UInt8) : IsWideState (feed state octet).2 := by
  by_cases ascii : octet.toNat < 0x80
  · rw [feed_of_ascii wide ascii]
    exact isWideState_none
  · exact (feed_of_high wide (Nat.le_of_not_lt ascii)).1

/-- Reading an ASCII octet ends what stands open and writes its own character. -/
theorem lossyFrom_cons_of_ascii {state : Option PartialScalar} {octet : UInt8}
    (wide : IsWideState state) (ascii : octet.toNat < 0x80) (rest : List UInt8) :
    lossyFrom state (octet :: rest) =
      broken state ++ Char.ofNat octet.toNat :: lossyFrom none rest := by
  rw [lossyFrom_cons, feed_of_ascii wide ascii, List.append_assoc, List.singleton_append]

private theorem isBeyondAscii_head_of_open {scalar : PartialScalar} (wide : scalar.IsWide)
    (octets : List UInt8) :
    ∀ character ∈ (lossyFrom (some scalar) octets).head?, IsBeyondAscii character := by
  induction octets generalizing scalar with
  | nil =>
      intro character first
      cases first
      exact isBeyondAscii_replacement
  | cons octet rest inductionHypothesis =>
      rw [lossyFrom_cons, feed]
      intro character first
      by_cases accepted : scalar.accepts octet = true
      · rw [if_pos accepted] at first
        have continued := wide.extend accepted
        by_cases last : scalar.owed ≤ 1
        · rw [if_pos last] at first
          rw [← Option.some.inj first]
          exact continued.1 last
        · rw [if_neg last] at first
          exact inductionHypothesis (continued.2 last) character first
      · rw [if_neg accepted] at first
        cases first
        exact isBeyondAscii_replacement

/-- A text that starts with an ASCII character was read from its octet. -/
theorem head?_of_head?_lossyFrom {octets : List UInt8} {character : Char}
    (ascii : character.toNat < 0x80) (first : (lossyFrom none octets).head? = some character) :
    ∃ octet, octets.head? = some octet ∧ octet.toNat = character.toNat := by
  cases octets with
  | nil => cases first
  | cons octet rest =>
      refine ⟨octet, rfl, ?_⟩
      by_cases high : octet.toNat < 0x80
      · rw [lossyFrom_cons_of_ascii isWideState_none high] at first
        cases first
        exact (toNat_eq_of_isValidChar (Or.inl (by omega))).symm
      · exfalso
        rcases opening_of_high (Nat.le_of_not_lt high) with refused | ⟨scalar, begun, wide⟩
        · rw [lossyFrom_cons, feed, refused] at first
          cases first
          exact absurd ascii (Nat.not_lt.mpr isBeyondAscii_replacement)
        · rw [lossyFrom_cons, feed, begun] at first
          have beyond := isBeyondAscii_head_of_open wide rest character first
          exact absurd ascii (Nat.not_lt.mpr beyond)

/-! ## The octets of a character -/

/-- The octet that holds six bits of a number. -/
def continuation (number : Nat) : UInt8 :=
  UInt8.ofNat (number % 64 + 128)

theorem toNat_continuation (number : Nat) : (continuation number).toNat = number % 64 + 128 := by
  exact UInt8.toNat_ofNat_of_lt' (show number % 64 + 128 < 256 by omega)

/-- Six bits complete an open character that owes one octet, and join the others. -/
theorem lossyFrom_continuation {scalar : PartialScalar} {number : Nat}
    (above : scalar.least.toNat ≤ number % 64 + 128)
    (below : number % 64 + 128 ≤ scalar.greatest.toNat) (rest : List UInt8) :
    lossyFrom (some scalar) (continuation number :: rest) =
      if scalar.owed ≤ 1 then
        Char.ofNat (scalar.value * 64 + number % 64) :: lossyFrom none rest
      else
        lossyFrom (some ⟨scalar.owed - 1, 0x80, 0xbf, scalar.value * 64 + number % 64,
          scalar.octets + 1⟩) rest := by
  have accepted : scalar.accepts (continuation number) = true := by
    rw [accepts_iff, toNat_continuation]
    exact ⟨above, below⟩
  have extended : scalar.extend (continuation number) =
      ⟨scalar.owed - 1, 0x80, 0xbf, scalar.value * 64 + number % 64, scalar.octets + 1⟩ := by
    rw [PartialScalar.extend, toNat_continuation, Nat.add_sub_cancel]
  rw [lossyFrom_cons, feed, if_pos accepted, extended]
  split <;> rfl

/-- A leading octet opens a character that owes `owed` octets after the bits `value`, and
that octet `next` may continue. -/
def Opens (lead : UInt8) (owed value next : Nat) : Prop :=
  ∃ least greatest : UInt8, opening lead = .begun ⟨owed, least, greatest, value, 1⟩ ∧
    least.toNat ≤ next ∧ next ≤ greatest.toNat

theorem opens_two {number : Nat} (least : 0x80 ≤ number) (less : number < 0x800) :
    Opens (UInt8.ofNat (number / 64 % 32 + 192)) 1 (number / 64) (number % 64 + 128) := by
  have value : (UInt8.ofNat (number / 64 % 32 + 192)).toNat = number / 64 + 192 := by
    rw [UInt8.toNat_ofNat_of_lt' (show number / 64 % 32 + 192 < 256 by omega)]
    omega
  refine ⟨0x80, 0xbf, ?_, by simp, by simp; omega⟩
  unfold opening
  dsimp only
  rw [value, if_neg (by omega), if_neg (by omega), if_pos (by omega), Nat.add_sub_cancel]

theorem opens_three {number : Nat} (least : 0x800 ≤ number) (less : number < 0x10000)
    (valid : number.isValidChar) :
    Opens (UInt8.ofNat (number / 4096 % 16 + 224)) 2 (number / 4096)
      (number / 64 % 64 + 128) := by
  have value : (UInt8.ofNat (number / 4096 % 16 + 224)).toNat = number / 4096 + 224 := by
    rw [UInt8.toNat_ofNat_of_lt' (show number / 4096 % 16 + 224 < 256 by omega)]
    omega
  unfold Opens opening
  dsimp only
  rw [value, if_neg (by omega), if_neg (by omega), if_neg (by omega)]
  unfold Nat.isValidChar at valid
  by_cases first : number / 4096 = 0
  · rw [if_pos (by omega), first]
    exact ⟨0xa0, 0xbf, rfl, by simp; omega, by simp; omega⟩
  · rw [if_neg (by omega)]
    by_cases surrogates : number / 4096 = 13
    · rw [if_pos (by omega), surrogates]
      exact ⟨0x80, 0x9f, rfl, by simp, by simp; omega⟩
    · rw [if_neg (by omega), if_pos (by omega), Nat.add_sub_cancel]
      exact ⟨0x80, 0xbf, rfl, by simp, by simp; omega⟩

theorem opens_four {number : Nat} (least : 0x10000 ≤ number) (less : number < 0x110000) :
    Opens (UInt8.ofNat (number / 262144 % 8 + 240)) 3 (number / 262144)
      (number / 4096 % 64 + 128) := by
  have value : (UInt8.ofNat (number / 262144 % 8 + 240)).toNat = number / 262144 + 240 := by
    rw [UInt8.toNat_ofNat_of_lt' (show number / 262144 % 8 + 240 < 256 by omega)]
    omega
  unfold Opens opening
  dsimp only
  rw [value, if_neg (by omega), if_neg (by omega), if_neg (by omega), if_neg (by omega),
    if_neg (by omega), if_neg (by omega)]
  by_cases first : number / 262144 = 0
  · rw [if_pos (by omega), first]
    exact ⟨0x90, 0xbf, rfl, by simp; omega, by simp; omega⟩
  · rw [if_neg (by omega)]
    by_cases last : number / 262144 = 4
    · rw [if_neg (by omega), if_pos (by omega), last]
      exact ⟨0x80, 0x8f, rfl, by simp, by simp; omega⟩
    · rw [if_pos (by omega), Nat.add_sub_cancel]
      exact ⟨0x80, 0xbf, rfl, by simp, by simp; omega⟩

/-- A leading octet hands the reading over to the character that it opens. -/
theorem Opens.lossyFrom {lead : UInt8} {owed value number : Nat}
    (opens : Opens lead owed value (number % 64 + 128)) (rest : List UInt8) :
    Text.lossyFrom none (lead :: continuation number :: rest) =
      if owed ≤ 1 then Char.ofNat (value * 64 + number % 64) :: Text.lossyFrom none rest
      else Text.lossyFrom (some ⟨owed - 1, 0x80, 0xbf, value * 64 + number % 64, 2⟩) rest := by
  rcases opens with ⟨least, greatest, opened, above, below⟩
  rw [lossyFrom_cons, feed, opened]
  exact @lossyFrom_continuation ⟨owed, least, greatest, value, 1⟩ number above below rest

theorem lossyFrom_freely (owed value octets number : Nat) (rest : List UInt8) :
    lossyFrom (some ⟨owed, 0x80, 0xbf, value, octets⟩) (continuation number :: rest) =
      if owed ≤ 1 then Char.ofNat (value * 64 + number % 64) :: lossyFrom none rest
      else lossyFrom (some ⟨owed - 1, 0x80, 0xbf, value * 64 + number % 64, octets + 1⟩) rest :=
  lossyFrom_continuation (by simp) (by simp; omega) rest

theorem utf8EncodeChar_eq (character : Char) :
    String.utf8EncodeChar character =
      if character.toNat ≤ 127 then [UInt8.ofNat character.toNat]
      else if character.toNat ≤ 2047 then
        [UInt8.ofNat (character.toNat / 64 % 32 + 192), continuation character.toNat]
      else if character.toNat ≤ 65535 then
        [UInt8.ofNat (character.toNat / 4096 % 16 + 224), continuation (character.toNat / 64),
          continuation character.toNat]
      else
        [UInt8.ofNat (character.toNat / 262144 % 8 + 240), continuation (character.toNat / 4096),
          continuation (character.toNat / 64), continuation character.toNat] := rfl

theorem utf8EncodeChar_of_ascii {character : Char} (ascii : character.toNat < 0x80) :
    String.utf8EncodeChar character = [UInt8.ofNat character.toNat] := by
  rw [utf8EncodeChar_eq, if_pos (Nat.le_of_lt_succ ascii)]

theorem utf8EncodeChar_ne_nil (character : Char) : String.utf8EncodeChar character ≠ [] := by
  rw [utf8EncodeChar_eq]
  split
  · exact List.cons_ne_nil _ _
  split
  · exact List.cons_ne_nil _ _
  split <;> exact List.cons_ne_nil _ _

/-- A character beyond ASCII has no ASCII octet. -/
theorem high_of_mem_utf8EncodeChar {character : Char} (beyond : IsBeyondAscii character) :
    ∀ octet ∈ String.utf8EncodeChar character, 0x80 ≤ octet.toNat := by
  have lead (number offset : Nat) (least : 0x80 ≤ offset) (less : number + offset < 256) :
      0x80 ≤ (UInt8.ofNat (number + offset)).toNat := by
    rw [UInt8.toNat_ofNat_of_lt' less]
    omega
  have follow (number : Nat) : 0x80 ≤ (continuation number).toNat := by
    rw [toNat_continuation]
    omega
  unfold IsBeyondAscii at beyond
  rw [utf8EncodeChar_eq, if_neg (by omega)]
  split
  · simp only [List.forall_mem_cons, List.not_mem_nil, false_implies, implies_true, and_true]
    exact ⟨lead _ _ (by decide) (by omega), follow _⟩
  split
  · simp only [List.forall_mem_cons, List.not_mem_nil, false_implies, implies_true, and_true]
    exact ⟨lead _ _ (by decide) (by omega), follow _, follow _⟩
  · simp only [List.forall_mem_cons, List.not_mem_nil, false_implies, implies_true, and_true]
    exact ⟨lead _ _ (by decide) (by omega), follow _, follow _, follow _⟩

/-- The octets of a character, read between characters, are read as that character. -/
theorem lossyFrom_utf8EncodeChar (character : Char) (rest : List UInt8) :
    lossyFrom none (String.utf8EncodeChar character ++ rest) =
      character :: lossyFrom none rest := by
  have valid : character.toNat.isValidChar := character.valid
  have within : character.toNat < 0x110000 := by
    unfold Nat.isValidChar at valid
    omega
  have finished (number : Nat) (same : number = character.toNat) :
      Char.ofNat number :: lossyFrom none rest = character :: lossyFrom none rest := by
    rw [same, Char.ofNat_toNat]
  rw [utf8EncodeChar_eq]
  generalize character.toNat = number at valid within finished
  split
  next ascii =>
    have value : (UInt8.ofNat number).toNat = number :=
      UInt8.toNat_ofNat_of_lt' (show number < 256 by omega)
    have ownOctet := @feed_of_ascii none (UInt8.ofNat number) isWideState_none (by omega)
    rw [List.singleton_append, lossyFrom_cons, ownOctet, value]
    exact finished _ rfl
  split
  next =>
    rw [List.cons_append, List.singleton_append,
      (opens_two (by omega) (by omega)).lossyFrom, if_pos (Nat.le_refl 1)]
    exact finished _ (by omega)
  split
  next =>
    rw [List.cons_append, List.cons_append, List.singleton_append,
      (opens_three (by omega) (by omega) valid).lossyFrom, if_neg (by decide), lossyFrom_freely,
      if_pos (Nat.le_refl 1)]
    exact finished _ (by omega)
  next =>
    rw [List.cons_append, List.cons_append, List.cons_append, List.singleton_append,
      (opens_four (by omega) within).lossyFrom, if_neg (by decide), lossyFrom_freely,
      if_neg (by decide), lossyFrom_freely, if_pos (Nat.le_refl 1)]
    exact finished _ (by omega)

theorem lossyFrom_utf8EncodeChars (characters : List Char) :
    lossyFrom none (characters.flatMap String.utf8EncodeChar) = characters := by
  induction characters with
  | nil => rfl
  | cons character rest inductionHypothesis =>
      rw [List.flatMap_cons, lossyFrom_utf8EncodeChar, inductionHypothesis]

end Text
end OpenApiTypes
