import OpenApiTypes.Proofs.Text.Pieces
import OpenApiTypes.Text.Lines
import Mathlib.Data.List.Basic

namespace OpenApiTypes
namespace Text

/-!
# Lines that are written and read again

A text written line by line, each line ended by a line feed, is read back as those lines
except for one thing: a carriage return at the end of a line cannot be told from a part
of the line ending, so reading drops it.
-/

/-- Lines as a text, each ended by a line feed. -/
def ended (lines : List (List Char)) : List Char :=
  lines.flatMap (fun line => line ++ ['\n'])

@[simp] theorem ended_cons (line : List Char) (rest : List (List Char)) :
    ended (line :: rest) = line ++ '\n' :: ended rest := by
  simp [ended]

/-! ## Carriage returns at the end of a line -/

/-- Reading keeps a line exactly when no carriage return ends it. -/
theorem dropFinalReturn_eq_self_iff (line : List Char) :
    dropFinalReturn line = line ↔ line.getLast? ≠ some '\r' := by
  unfold dropFinalReturn
  split
  · next last =>
      simp only [last, ne_eq, not_true_eq_false, iff_false]
      intro same
      have nonempty : line ≠ [] := by
        rintro rfl
        cases last
      have shorter := congrArg List.length same
      have positive := List.length_pos_iff.mpr nonempty
      rw [List.length_dropLast] at shorter
      omega
  · next other => simpa using other

/-- What reading leaves of a line is an initial part of it. -/
theorem isPrefix_dropFinalReturn (line : List Char) : dropFinalReturn line <+: line := by
  unfold dropFinalReturn
  split
  · exact List.dropLast_prefix line
  · exact List.prefix_refl line

/-- A line is what reading leaves of it, or that and a carriage return. -/
theorem eq_dropFinalReturn_or (line : List Char) :
    line = dropFinalReturn line ∨ line = dropFinalReturn line ++ ['\r'] := by
  by_cases last : line.getLast? = some '\r'
  · right
    rcases List.getLast?_eq_some_iff.mp last with ⟨front, rfl⟩
    simp [dropFinalReturn]
  · left
    exact ((dropFinalReturn_eq_self_iff line).mpr last).symm

/-- Where a carriage return at the end of a line makes no difference, reading makes none. -/
theorem apply_dropFinalReturn {α : Type} {f : List Char -> α}
    (unseen : forall line : List Char, f (line ++ ['\r']) = f line) (line : List Char) :
    f (dropFinalReturn line) = f line := by
  rcases eq_dropFinalReturn_or line with same | same
  · rw [← same]
  · nth_rewrite 2 [same]
    exact (unseen _).symm

/-! ## Reading lines -/

private theorem newline_not_mem_linesFrom (characters reversed : List Char)
    (outside : '\n' ∉ reversed) : ∀ line ∈ linesFrom reversed characters, '\n' ∉ line := by
  induction characters generalizing reversed with
  | nil =>
      intro line member
      rw [linesFrom] at member
      split at member
      · cases member
      · rw [List.mem_singleton.mp member, List.mem_reverse]
        exact outside
  | cons character rest inductionHypothesis =>
      intro line member
      by_cases feed : character = '\n'
      · subst feed
        rw [linesFrom] at member
        rcases List.mem_cons.mp member with rfl | later
        · intro inside
          exact outside (List.mem_reverse.mp ((isPrefix_dropFinalReturn _).mem inside))
        · exact inductionHypothesis [] List.not_mem_nil line later
      · rw [linesFrom.eq_3 _ _ _ feed] at member
        have still : '\n' ∉ character :: reversed := by
          rw [List.mem_cons, not_or]
          exact ⟨fun same => feed same.symm, outside⟩
        exact inductionHypothesis _ still line member

/-- No line holds a line feed. -/
theorem newline_not_mem_lines (characters : List Char) :
    ∀ line ∈ lines characters, '\n' ∉ line :=
  newline_not_mem_linesFrom characters [] List.not_mem_nil

/-- A line is read up to the line feed that ends it. -/
private theorem linesFrom_append_newline {line : List Char} (within : '\n' ∉ line)
    (reversed rest : List Char) :
    linesFrom reversed (line ++ '\n' :: rest) =
      dropFinalReturn (reversed.reverse ++ line) :: lines rest := by
  induction line generalizing reversed with
  | nil => rw [List.nil_append, List.append_nil, linesFrom, lines]
  | cons character later inductionHypothesis =>
      rw [List.mem_cons, not_or] at within
      rw [List.cons_append, linesFrom.eq_3 _ _ _ (fun same => within.1 same.symm),
        inductionHypothesis within.2, List.reverse_cons, List.append_assoc]
      rfl

/-- The first line of a text goes up to the first line feed. -/
theorem lines_append_newline {line : List Char} (within : '\n' ∉ line) (rest : List Char) :
    lines (line ++ '\n' :: rest) = dropFinalReturn line :: lines rest :=
  linesFrom_append_newline within [] rest

private theorem linesFrom_of_not_mem {line : List Char} (within : '\n' ∉ line)
    (reversed : List Char) (filled : reversed.reverse ++ line ≠ []) :
    linesFrom reversed line = [reversed.reverse ++ line] := by
  induction line generalizing reversed with
  | nil =>
      rw [List.append_nil] at filled ⊢
      rw [linesFrom, if_neg]
      rw [List.isEmpty_iff]
      exact fun empty => filled (List.reverse_eq_nil_iff.mpr empty)
  | cons character later inductionHypothesis =>
      rw [List.mem_cons, not_or] at within
      rw [linesFrom.eq_3 _ _ _ (fun same => within.1 same.symm)]
      have moved : (character :: reversed).reverse ++ later =
          reversed.reverse ++ character :: later := by
        rw [List.reverse_cons, List.append_assoc, List.singleton_append]
      rw [inductionHypothesis within.2 _ (moved ▸ filled), moved]

/-- A text without a line feed is one line. -/
theorem lines_of_not_mem {line : List Char} (within : '\n' ∉ line) (filled : line ≠ []) :
    lines line = [line] :=
  linesFrom_of_not_mem within [] filled

/-- Lines that are written in front of a text and read again lose the carriage returns that end
them. -/
theorem lines_ended_append {written : List (List Char)} (within : ∀ line ∈ written, '\n' ∉ line)
    (rest : List Char) :
    lines (ended written ++ rest) = written.map dropFinalReturn ++ lines rest := by
  induction written with
  | nil => rfl
  | cons line later inductionHypothesis =>
      rw [List.forall_mem_cons] at within
      rw [ended_cons, List.append_assoc, List.cons_append, lines_append_newline within.1,
        inductionHypothesis within.2, List.map_cons, List.cons_append]

/-- The same for a text of nothing but lines. -/
theorem lines_ended {written : List (List Char)} (within : ∀ line ∈ written, '\n' ∉ line) :
    lines (ended written) = written.map dropFinalReturn := by
  have same := lines_ended_append within []
  rw [List.append_nil] at same
  exact same.trans (List.append_nil _)

/-- A text is cut at its line feeds into the lines that they end and what follows the last of
them. -/
theorem splitAt_ended_append {written : List (List Char)} (within : ∀ line ∈ written, '\n' ∉ line)
    {last : List Char} (lastWithin : '\n' ∉ last) :
    splitAt '\n' (ended written ++ last) = written ++ [last] := by
  induction written with
  | nil => exact splitAt_of_not_mem lastWithin
  | cons line later inductionHypothesis =>
      rw [List.forall_mem_cons] at within
      rw [ended_cons, List.append_assoc, List.cons_append, splitAt_append,
        splitAt_of_not_mem within.1, inductionHypothesis within.2, List.singleton_append,
        List.cons_append]

/-- Every text is one of lines and a rest without a line feed. -/
theorem exists_ended_append (characters : List Char) :
    Exists fun written : List (List Char) => Exists fun last : List Char =>
      (∀ line ∈ written, '\n' ∉ line) ∧ '\n' ∉ last ∧ characters = ended written ++ last := by
  induction characters with
  | nil => exact ⟨[], [], nofun, List.not_mem_nil, rfl⟩
  | cons character rest inductionHypothesis =>
      rcases inductionHypothesis with ⟨written, last, within, lastWithin, rfl⟩
      by_cases feed : character = '\n'
      · subst feed
        refine ⟨[] :: written, last, ?_, lastWithin, by rw [ended_cons]; rfl⟩
        exact List.forall_mem_cons.mpr ⟨List.not_mem_nil, within⟩
      · have apart {line : List Char} (absent : '\n' ∉ line) : '\n' ∉ character :: line :=
          List.not_mem_cons_of_ne_of_not_mem (Ne.symm feed) absent
        cases written with
        | nil => exact ⟨[], character :: last, nofun, apart lastWithin, rfl⟩
        | cons line later =>
            rw [List.forall_mem_cons] at within
            refine ⟨(character :: line) :: later, last, ?_, lastWithin, ?_⟩
            · exact List.forall_mem_cons.mpr ⟨apart within.1, within.2⟩
            · rw [ended_cons, ended_cons]
              rfl

/-- Different lines make different texts. -/
theorem ended_injective {first second : List (List Char)}
    (firstWithin : ∀ line ∈ first, '\n' ∉ line) (secondWithin : ∀ line ∈ second, '\n' ∉ line)
    (same : ended first = ended second) : first = second := by
  induction first generalizing second with
  | nil =>
      cases second with
      | nil => rfl
      | cons line rest =>
          rw [ended_cons] at same
          exact absurd same.symm (by simp [ended])
  | cons line rest inductionHypothesis =>
      cases second with
      | nil =>
          rw [ended_cons] at same
          exact absurd same (by simp [ended])
      | cons otherLine otherRest =>
          rw [List.forall_mem_cons] at firstWithin secondWithin
          rw [ended_cons, ended_cons] at same
          have upToFeed {line : List Char} (within : '\n' ∉ line) (rest : List Char) :
              (line ++ '\n' :: rest).takeWhile (fun character => character != '\n') = line := by
            rw [List.takeWhile_append_of_pos]
            · simp
            · intro character member
              rw [bne_iff_ne]
              rintro rfl
              exact within member
          have sameLine := congrArg (List.takeWhile (fun character => character != '\n')) same
          rw [upToFeed firstWithin.1, upToFeed secondWithin.1] at sameLine
          subst sameLine
          have sameRest := (List.cons.inj (List.append_cancel_left same)).2
          rw [inductionHypothesis firstWithin.2 secondWithin.2 sameRest]

end Text
end OpenApiTypes
