import OpenApiTypes.Proofs.Text.Lines
import OpenApiTypes.TypeScript.Tidy
import Mathlib.Data.List.DropRight

namespace OpenApiTypes
namespace TypeScript

/-!
# Tidying a tidied text

A second pass over a text starts from the lines that the first pass has written.  It makes
the same decision about each of them: which lines belong to template literals does not
depend on the blanks at their ends, and blank lines stand alone already.  So the passes
differ only in the lines themselves.  Reading a line drops a carriage return in front of
the line feed, and in a template literal nothing puts it back, because the line is copied
as it was read.

The main statement here is that this is the only way in which a second pass can change
anything: a tidied text is stable exactly when no line in a template literal is read with
a carriage return at its end.
-/

/-! ## Backticks and the ends of lines -/

private theorem togglesTemplate_of_not_mem {line : List Char} (without : '`' ∉ line)
    (escaped : Bool) : togglesTemplate escaped line = false := by
  induction line generalizing escaped with
  | nil => rfl
  | cons character rest inductionHypothesis =>
      rw [List.mem_cons, not_or] at without
      have different : (character == '`') = false := beq_eq_false_iff_ne.mpr (Ne.symm without.1)
      rw [togglesTemplate, different, inductionHypothesis without.2]
      rfl

/-- What holds no backtick can be cut off the end of a line. -/
theorem togglesTemplate_append_of_not_mem (line : List Char) {tail : List Char}
    (without : '`' ∉ tail) (escaped : Bool) :
    togglesTemplate escaped (line ++ tail) = togglesTemplate escaped line := by
  induction line generalizing escaped with
  | nil => exact togglesTemplate_of_not_mem without escaped
  | cons character rest inductionHypothesis =>
      rw [List.cons_append, togglesTemplate, togglesTemplate, inductionHypothesis]

/-- A line without the blanks at its end, in terms of the list library. -/
theorem trimEndChars_eq_rdropWhile (line : List Char) :
    Text.trimEndChars line = line.rdropWhile Text.isBlank := rfl

/-- A line is what trimming leaves of it, and blanks. -/
theorem exists_trimEndChars_append (line : List Char) :
    Exists fun blanks : List Char =>
      (∀ character ∈ blanks, Text.isBlank character = true) ∧
        line = Text.trimEndChars line ++ blanks :=
  ⟨line.rtakeWhile Text.isBlank, fun _ => List.mem_rtakeWhile_imp,
    List.rdropWhile_append_rtakeWhile.symm⟩

@[simp] theorem togglesTemplate_trimEndChars (line : List Char) :
    togglesTemplate false (Text.trimEndChars line) = togglesTemplate false line := by
  rcases exists_trimEndChars_append line with ⟨blanks, blank, same⟩
  have without : '`' ∉ blanks := fun member => absurd (blank _ member) (by decide)
  nth_rewrite 2 [same]
  exact (togglesTemplate_append_of_not_mem _ without false).symm

@[simp] theorem togglesTemplate_dropFinalReturn (line : List Char) :
    togglesTemplate false (Text.dropFinalReturn line) = togglesTemplate false line :=
  Text.apply_dropFinalReturn
    (fun line => togglesTemplate_append_of_not_mem line (by decide) false) line

/-- A trimmed line does not end in a carriage return. -/
theorem getLast?_trimEndChars_ne (line : List Char) :
    (Text.trimEndChars line).getLast? ≠ some '\r' := by
  intro last
  rcases List.getLast?_eq_some_iff.mp last with ⟨front, same⟩
  have nonempty : line.rdropWhile Text.isBlank ≠ [] := by
    rw [← trimEndChars_eq_rdropWhile, same]
    exact List.concat_ne_nil _ _
  apply List.rdropWhile_last_not Text.isBlank line nonempty
  simp only [← trimEndChars_eq_rdropWhile, same, List.getLast_append_singleton]
  decide

theorem dropFinalReturn_trimEndChars (line : List Char) :
    Text.dropFinalReturn (Text.trimEndChars line) = Text.trimEndChars line :=
  (Text.dropFinalReturn_eq_self_iff _).mpr (getLast?_trimEndChars_ne line)

/-! ## One line of a pass -/

/-- What is written for a line that starts inside a template literal or outside: the line
itself when it belongs to a template literal, else the line without blanks at its end. -/
def copied (inside : Bool) (line : List Char) : List Char :=
  if inside || xor inside (togglesTemplate false line) then line else Text.trimEndChars line

/-- Whether a line is left out for now: it is blank, and outside template literals. -/
def skipped (inside : Bool) (line : List Char) : Bool :=
  (copied inside line).isEmpty && !inside

/-- Only a blank line outside template literals is left out. -/
theorem skipped_iff (inside : Bool) (line : List Char) :
    skipped inside line = true ↔
      inside = false ∧ togglesTemplate false line = false ∧ Text.trimEndChars line = [] := by
  cases inside with
  | true => simp [skipped]
  | false =>
      cases toggles : togglesTemplate false line with
      | false => simp [skipped, copied, toggles]
      | true =>
          have nonempty : line ≠ [] := by
            rintro rfl
            cases toggles
          simp [skipped, copied, toggles, nonempty]

/-- A blank line outside template literals leaves a blank line pending when a line has
been written before. -/
theorem tidyLines_of_skipped {inside : Bool} {line : List Char}
    (skip : skipped inside line = true) (started pending : Bool) (rest : List (List Char)) :
    tidyLines ⟨inside, started, pending⟩ (line :: rest) =
      tidyLines ⟨false, started, started⟩ rest := by
  rcases (skipped_iff inside line).mp skip with ⟨rfl, toggles, blank⟩
  simp [tidyLines, toggles, blank]

/-- Any other line is written, after a blank line when one is pending. -/
theorem tidyLines_of_not_skipped {inside : Bool} {line : List Char}
    (keep : skipped inside line = false) (started pending : Bool) (rest : List (List Char)) :
    tidyLines ⟨inside, started, pending⟩ (line :: rest) =
      (if pending then [[], copied inside line] else [copied inside line]) ++
        tidyLines ⟨xor inside (togglesTemplate false line), true, false⟩ rest := by
  change (if skipped inside line then _ else _) = _
  rw [keep]
  rfl

/-! ## The second pass -/

/-- What is written for a line is written again, but for a carriage return at its end. -/
theorem copied_dropFinalReturn_copied (inside : Bool) (line : List Char) :
    copied inside (Text.dropFinalReturn (copied inside line)) =
      Text.dropFinalReturn (copied inside line) := by
  by_cases literal : (inside || xor inside (togglesTemplate false line)) = true
  · simp [copied, literal]
  · have trimmed : Text.trimEndChars (Text.trimEndChars line) = Text.trimEndChars line :=
      List.rdropWhile_idempotent _ _
    simp [copied, literal, dropFinalReturn_trimEndChars, trimmed]

/-- What is written for a line has the backticks of the line. -/
theorem togglesTemplate_copied (inside : Bool) (line : List Char) :
    togglesTemplate false (copied inside line) = togglesTemplate false line := by
  unfold copied
  split
  · rfl
  · exact togglesTemplate_trimEndChars line

/-- A line that has been written is not left out by the next pass. -/
theorem skipped_dropFinalReturn_copied {inside : Bool} {line : List Char}
    (keep : skipped inside line = false) :
    skipped inside (Text.dropFinalReturn (copied inside line)) = false := by
  rw [Bool.eq_false_iff] at keep ⊢
  intro skip
  apply keep
  rw [skipped_iff] at skip ⊢
  rcases skip with ⟨rfl, toggles, blank⟩
  rw [togglesTemplate_dropFinalReturn, togglesTemplate_copied] at toggles
  have trimmed : Text.trimEndChars (Text.trimEndChars line) = Text.trimEndChars line :=
    List.rdropWhile_idempotent _ _
  simp only [copied, toggles, Bool.false_or, Bool.xor_false, Bool.false_eq_true, if_false,
    dropFinalReturn_trimEndChars, trimmed] at blank
  exact ⟨rfl, toggles, blank⟩

/-- A second pass over what a pass has written writes it again, but for the carriage
returns at the ends of lines.  The pass may have a blank line pending where the second one
has not read it yet; then a line has been written, and the place is outside template
literals. -/
private theorem tidyLines_map_tidyLines (lines : List (List Char)) (inside started pending : Bool)
    (behind : pending = true -> started = true ∧ inside = false) :
    tidyLines ⟨inside, started, false⟩
        ((tidyLines ⟨inside, started, pending⟩ lines).map Text.dropFinalReturn) =
      (tidyLines ⟨inside, started, pending⟩ lines).map Text.dropFinalReturn := by
  induction lines generalizing inside started pending with
  | nil => rfl
  | cons line rest inductionHypothesis =>
      cases skip : skipped inside line with
      | true =>
          rw [tidyLines_of_skipped skip]
          rcases (skipped_iff inside line).mp skip with ⟨rfl, -, -⟩
          exact inductionHypothesis false started started (fun some => ⟨some, rfl⟩)
      | false =>
          have later := inductionHypothesis (xor inside (togglesTemplate false line)) true false
            (fun none => Bool.noConfusion none)
          have next (started pending : Bool) (others : List (List Char)) :=
            tidyLines_of_not_skipped (skipped_dropFinalReturn_copied skip) started pending others
          rw [togglesTemplate_dropFinalReturn, togglesTemplate_copied,
            copied_dropFinalReturn_copied] at next
          rw [tidyLines_of_not_skipped skip]
          cases pending with
          | false =>
              rw [if_neg Bool.false_ne_true, List.map_append, List.map_singleton,
                List.singleton_append, next, later]
              rfl
          | true =>
              rcases behind rfl with ⟨rfl, rfl⟩
              have blank : skipped false [] = true := rfl
              have kept : Text.dropFinalReturn [] = [] := rfl
              rw [if_pos rfl, List.map_append, List.map_cons, List.map_singleton, kept,
                List.cons_append, List.singleton_append, tidyLines_of_skipped blank, next, later]
              rfl

/-- No written line holds a line feed. -/
theorem newline_not_mem_tidyLines {lines : List (List Char)} (state : TidyState)
    (within : ∀ line ∈ lines, '\n' ∉ line) :
    ∀ line ∈ tidyLines state lines, '\n' ∉ line := by
  induction lines generalizing state with
  | nil => simp [tidyLines]
  | cons line rest inductionHypothesis =>
      rw [List.forall_mem_cons] at within
      rcases state with ⟨inside, started, pending⟩
      cases skip : skipped inside line with
      | true =>
          rw [tidyLines_of_skipped skip]
          exact inductionHypothesis _ within.2
      | false =>
          rw [tidyLines_of_not_skipped skip]
          intro written member
          have copiedWithin : '\n' ∉ copied inside line := by
            unfold copied
            split
            · exact within.1
            · have trimmed := List.rdropWhile_prefix Text.isBlank line
              exact fun inside => within.1 (trimmed.mem inside)
          rcases List.mem_append.mp member with here | later
          · cases pending with
            | false =>
                rw [List.mem_singleton.mp here]
                exact copiedWithin
            | true =>
                rcases List.mem_pair.mp here with rfl | rfl
                · exact List.not_mem_nil
                · exact copiedWithin
          · exact inductionHypothesis _ within.2 written later

/-! ## Stable texts -/

/-- The lines that a pass writes for a text. -/
def writtenLines (characters : List Char) : List (List Char) :=
  tidyLines .initial (Text.lines characters)

theorem tidyChars_eq (characters : List Char) :
    tidyChars characters = Text.ended (writtenLines characters) := rfl

theorem newline_not_mem_writtenLines (characters : List Char) :
    ∀ line ∈ writtenLines characters, '\n' ∉ line :=
  newline_not_mem_tidyLines _ (Text.newline_not_mem_lines characters)

/-- A second pass drops one carriage return from the end of each line and changes nothing
else. -/
theorem tidyChars_tidyChars (characters : List Char) :
    tidyChars (tidyChars characters) =
      Text.ended ((writtenLines characters).map Text.dropFinalReturn) := by
  rw [tidyChars_eq, tidyChars_eq, writtenLines,
    Text.lines_ended (newline_not_mem_writtenLines characters)]
  exact congrArg Text.ended
    (tidyLines_map_tidyLines _ false false false (fun none => Bool.noConfusion none))

/-- The lines that start or end inside a template literal, when the first line starts
inside one or outside. -/
def templateLines (inside : Bool) : List (List Char) -> List (List Char)
  | [] => []
  | line :: rest =>
      let endsInside := xor inside (togglesTemplate false line)
      (if inside || endsInside then [line] else []) ++ templateLines endsInside rest

/-- The written lines with a carriage return at the end are those of template literals:
other lines are trimmed. -/
theorem mem_tidyLines_iff {line : List Char} (last : line.getLast? = some '\r')
    (lines : List (List Char)) (state : TidyState) :
    line ∈ tidyLines state lines ↔ line ∈ templateLines state.inside lines := by
  have nonempty : line ≠ [] := by
    rintro rfl
    cases last
  have untrimmed (other : List Char) : line ≠ Text.trimEndChars other := by
    rintro rfl
    exact getLast?_trimEndChars_ne other last
  induction lines generalizing state with
  | nil => simp [tidyLines, templateLines]
  | cons first rest inductionHypothesis =>
      rcases state with ⟨inside, started, pending⟩
      cases skip : skipped inside first with
      | true =>
          rw [tidyLines_of_skipped skip]
          refine (inductionHypothesis ⟨false, started, started⟩).trans ?_
          rcases (skipped_iff inside first).mp skip with ⟨rfl, toggles, _⟩
          simp [templateLines, toggles]
      | false =>
          rw [tidyLines_of_not_skipped skip, templateLines, List.mem_append, List.mem_append]
          refine or_congr ?_ (inductionHypothesis _)
          have written : line ∈ (if pending then [[], copied inside first] else [copied inside first])
              ↔ line = copied inside first := by
            cases pending <;> simp [nonempty]
          rw [written, copied]
          split
          · rw [List.mem_singleton]
          · simp [untrimmed first]

/-- Tidying a tidied text changes nothing exactly when no line that starts or ends inside
a template literal is read with a carriage return at its end. -/
theorem tidy_tidy_eq_iff (source : String) :
    tidy (tidy source) = tidy source ↔
      ∀ line ∈ templateLines false (Text.lines source.toList), line.getLast? ≠ some '\r' := by
  have stable : tidy (tidy source) = tidy source ↔
      (writtenLines source.toList).map Text.dropFinalReturn = writtenLines source.toList := by
    rw [tidy, tidy, String.toList_ofList, String.ofList_inj, tidyChars_tidyChars, tidyChars_eq]
    constructor
    · apply Text.ended_injective _ (newline_not_mem_writtenLines _)
      intro line member
      rcases List.mem_map.mp member with ⟨written, writtenMember, rfl⟩
      intro inside
      exact newline_not_mem_writtenLines _ written writtenMember
        ((Text.isPrefix_dropFinalReturn written).mem inside)
    · exact congrArg Text.ended
  have unchanged := List.map_inj_left (l := writtenLines source.toList)
    (f := Text.dropFinalReturn) (g := id)
  rw [List.map_id] at unchanged
  simp only [stable, unchanged, id_eq, Text.dropFinalReturn_eq_self_iff]
  constructor
  · intro free line member last
    exact free line ((mem_tidyLines_iff last _ .initial).mpr member) last
  · intro free line member last
    exact free line ((mem_tidyLines_iff last _ .initial).mp member) last

/-- Of the two carriage returns in front of the line feed in this template literal, the
first pass leaves one and the second pass none. -/
theorem tidy_tidy_returnsInTemplate_ne :
    tidy (tidy "`\r\r\n`\n") ≠ tidy "`\r\r\n`\n" := by
  decide

end TypeScript
end OpenApiTypes
