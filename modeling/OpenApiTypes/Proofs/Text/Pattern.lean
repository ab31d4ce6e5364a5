import Mathlib.Data.List.Basic

namespace OpenApiTypes
namespace Text

/-!
# Patterns

A pattern is read at the front of a text, and there may be several ways to do so.  The ways
are listed by what they leave of the text, in the order in which they are preferred: a
repetition would rather go on than stop.  What a pattern takes is what the preferred way takes,
which need not be the most that any way takes.

A repetition goes on only behind a round that has taken something, so it comes to an end.
-/

/-- A pattern of characters. -/
inductive Pattern where
  /-- One character of a class. -/
  | one (accepts : Char -> Bool)
  /-- The second pattern behind the first one. -/
  | followed (first second : Pattern)
  /-- A pattern any number of times, as often as possible. -/
  | many (item : Pattern)

namespace Pattern

/-- What is left behind at most so many rounds, each of which leaves less than there was. -/
def repeated (item : List Char -> List (List Char)) : Nat -> List Char -> List (List Char)
  | 0, text => [text]
  | rounds + 1, text =>
      ((item text).filter (fun rest => rest.length < text.length)).flatMap
        (repeated item rounds) ++ [text]

/-- What the ways to read a pattern leave of a text, the preferred one first. -/
def rests : Pattern -> List Char -> List (List Char)
  | .one _, [] => []
  | .one accepts, character :: rest => if accepts character then [rest] else []
  | .followed first second, text => (first.rests text).flatMap second.rests
  | .many item, text => repeated item.rests text.length text

/-- What the preferred way leaves of a text. -/
def rest? (pattern : Pattern) (text : List Char) : Option (List Char) :=
  (pattern.rests text).head?

/-- What a pattern takes from the front of a text. -/
def taken? (pattern : Pattern) (text : List Char) : Option (List Char) :=
  (pattern.rest? text).map (fun rest => text.take (text.length - rest.length))

/-- A pattern at least once. -/
def atLeastOnce (item : Pattern) : Pattern :=
  .followed item (.many item)

/-- The pieces of a text between the places where a pattern takes something, behind the
characters that have been taken already. -/
def splitBehind (pattern : Pattern) : Nat -> List Char -> List (List Char)
  | _, [] => [[]]
  | taken + 1, _ :: rest => splitBehind pattern taken rest
  | 0, character :: rest =>
      match pattern.taken? (character :: rest) with
      | some (_ :: others) => [] :: splitBehind pattern others.length rest
      | _ => (splitBehind pattern 0 rest).modifyHead (character :: ·)

/-- The pieces of a text between the places where a pattern takes something. -/
def split (pattern : Pattern) (text : List Char) : List (List Char) :=
  pattern.splitBehind 0 text

/-! ## Repetition -/

/-- Without characters there is no further round. -/
theorem repeated_nil (item : List Char -> List (List Char)) (rounds : Nat) :
    repeated item rounds [] = [[]] := by
  cases rounds with
  | zero => rfl
  | succ rounds =>
      have nothing : (item []).filter (fun rest => rest.length < ([] : List Char).length) = [] :=
        List.filter_eq_nil_iff.mpr (by simp)
      rw [repeated, nothing]
      rfl

/-- As many rounds as there are characters are enough. -/
theorem repeated_eq_of_le (item : List Char -> List (List Char)) {rounds more : Nat}
    {text : List Char} (enough : text.length ≤ rounds) (moreEnough : text.length ≤ more) :
    repeated item rounds text = repeated item more text := by
  induction rounds generalizing more text with
  | zero => rw [List.eq_nil_of_length_eq_zero (Nat.le_zero.mp enough), repeated_nil, repeated_nil]
  | succ rounds inductionHypothesis =>
      cases text with
      | nil => rw [repeated_nil, repeated_nil]
      | cons character later =>
          cases more with
          | zero => cases moreEnough
          | succ more =>
              rw [repeated, repeated]
              refine congrArg (· ++ [character :: later]) (List.flatMap_congr fun rest left => ?_)
              have less : rest.length < (character :: later).length :=
                of_decide_eq_true (List.mem_filter.mp left).2
              exact inductionHypothesis (by omega) (by omega)

/-- A repetition goes on behind each way to read a round, and then it stops. -/
theorem rests_many (item : Pattern) (text : List Char) :
    (many item).rests text =
      ((item.rests text).filter (fun rest => rest.length < text.length)).flatMap
        (many item).rests ++ [text] := by
  cases text with
  | nil =>
      have nothing : (item.rests []).filter (fun rest => rest.length < ([] : List Char).length) =
          [] := List.filter_eq_nil_iff.mpr (by simp)
      rw [nothing]
      rfl
  | cons character later =>
      rw [rests, List.length_cons, repeated]
      refine congrArg (· ++ [character :: later]) (List.flatMap_congr fun rest left => ?_)
      have less : rest.length < (character :: later).length :=
        of_decide_eq_true (List.mem_filter.mp left).2
      exact repeated_eq_of_le item.rests (Nat.le_of_lt_succ less) (Nat.le_refl _)

theorem rests_many_ne_nil (item : Pattern) (text : List Char) : (many item).rests text ≠ [] := by
  rw [rests_many]
  exact List.append_ne_nil_of_right_ne_nil _ (List.cons_ne_nil _ _)

/-! ## What the preferred way leaves -/

theorem rest?_one_cons (accepts : Char -> Bool) (character : Char) (rest : List Char) :
    (one accepts).rest? (character :: rest) = if accepts character then some rest else none := by
  rw [rest?, rests]
  split <;> rfl

/-- Behind a way to read the first pattern there is always one to repeat the second one, so
the preferred ways of both go together. -/
theorem rest?_followed_many (first item : Pattern) (text : List Char) :
    (followed first (many item)).rest? text = (first.rest? text).bind (many item).rest? := by
  rw [rest?, rests, rest?]
  cases first.rests text with
  | nil => rfl
  | cons rest others =>
      rw [List.flatMap_cons, List.head?_append_of_ne_nil _ (rests_many_ne_nil item rest)]
      rfl

/-- A repetition stops where there is no further round. -/
theorem rest?_many_of_none {item : Pattern} {text : List Char} (stops : item.rest? text = none) :
    (many item).rest? text = some text := by
  rw [rest?, rests_many, List.head?_eq_none_iff.mp stops]
  rfl

/-- A repetition goes on behind the preferred way to read a round. -/
theorem rest?_many_of_some {item : Pattern} {text rest : List Char}
    (goesOn : item.rest? text = some rest) (less : rest.length < text.length) :
    (many item).rest? text = (many item).rest? rest := by
  rcases List.head?_eq_some_iff.mp goesOn with ⟨others, ways⟩
  have kept : (rest :: others).filter (fun other => other.length < text.length) =
      rest :: others.filter (fun other => other.length < text.length) :=
    List.filter_cons_of_pos (decide_eq_true less)
  rw [rest?, rests_many, ways, kept, List.flatMap_cons, List.append_assoc,
    List.head?_append_of_ne_nil _ (rests_many_ne_nil item rest), rest?]

/-- Repeating a class takes all characters of the class. -/
theorem rest?_many_one (accepts : Char -> Bool) (text : List Char) :
    (many (one accepts)).rest? text = some (text.dropWhile accepts) := by
  induction text with
  | nil => exact rest?_many_of_none rfl
  | cons character rest inductionHypothesis =>
      have round := rest?_one_cons accepts character rest
      cases accepted : accepts character with
      | true =>
          rw [accepted] at round
          rw [rest?_many_of_some round (Nat.lt_succ_self _), inductionHypothesis,
            List.dropWhile_cons_of_pos accepted]
      | false =>
          rw [accepted] at round
          rw [rest?_many_of_none round, List.dropWhile_cons_of_neg (Bool.eq_false_iff.mp accepted)]

theorem rest?_atLeastOnce_one (accepts : Char -> Bool) (character : Char) (rest : List Char) :
    (atLeastOnce (one accepts)).rest? (character :: rest) =
      if accepts character then some (rest.dropWhile accepts) else none := by
  rw [atLeastOnce, rest?_followed_many, rest?_one_cons]
  split
  next => exact rest?_many_one accepts rest
  next => rfl

/-! ## What is taken -/

/-- A pattern that leaves what stands behind the characters of a class takes these. -/
theorem taken?_of_rest? {pattern : Pattern} {accepts : Char -> Bool} {text : List Char}
    (leaves : pattern.rest? text = some (text.dropWhile accepts)) :
    pattern.taken? text = some (text.takeWhile accepts) := by
  have parts : text.takeWhile accepts ++ text.dropWhile accepts = text :=
    List.takeWhile_append_dropWhile
  have sizes := congrArg List.length parts
  rw [List.length_append] at sizes
  have size : text.length - (text.dropWhile accepts).length = (text.takeWhile accepts).length := by
    omega
  rw [taken?, leaves, Option.map_some, size]
  exact congrArg some (List.prefix_iff_eq_take.mp (List.takeWhile_prefix accepts)).symm

theorem taken?_of_rest?_eq_none {pattern : Pattern} {text : List Char}
    (stops : pattern.rest? text = none) : pattern.taken? text = none := by
  rw [taken?, stops, Option.map_none]

theorem taken?_atLeastOnce_one (accepts : Char -> Bool) (character : Char) (rest : List Char) :
    (atLeastOnce (one accepts)).taken? (character :: rest) =
      if accepts character then some (character :: rest.takeWhile accepts) else none := by
  have leaves := rest?_atLeastOnce_one accepts character rest
  cases accepted : accepts character with
  | true =>
      rw [accepted] at leaves
      have dropped : (character :: rest).dropWhile accepts = rest.dropWhile accepts :=
        List.dropWhile_cons_of_pos accepted
      have taken := taken?_of_rest? (leaves.trans (congrArg some dropped.symm))
      rw [taken, List.takeWhile_cons_of_pos accepted]
      rfl
  | false =>
      rw [accepted] at leaves
      exact taken?_of_rest?_eq_none leaves

/-- A text is split at the longest runs of a class. -/
theorem splitBehind_atLeastOnce_one (accepts : Char -> Bool) (character : Char)
    (rest : List Char) :
    (atLeastOnce (one accepts)).splitBehind 0 (character :: rest) =
      if accepts character then
        [] :: (atLeastOnce (one accepts)).splitBehind (rest.takeWhile accepts).length rest
      else ((atLeastOnce (one accepts)).splitBehind 0 rest).modifyHead (character :: ·) := by
  rw [splitBehind, taken?_atLeastOnce_one]
  cases accepts character <;> rfl

end Pattern
end Text
end OpenApiTypes
