import OpenApiTypes.Proofs.TypeScript.Tidy
import Mathlib.Data.List.Chain

namespace OpenApiTypes
namespace TypeScript

/-!
# The shape of a tidied text

The formatter counts backticks, so it knows of each line whether it starts or ends after an
odd number of them.  Such a line is marked: it may belong to a template literal, and it is
written as it was read.  What the formatter does with the other lines has a shape that is said
here without the flags that it carries along: they are trimmed, and a blank one stands alone
between two lines.  No character is lost but blanks.

The formatter is first turned into a relation between the lines that are read and those that
are written, with a case for each thing that may happen to a line.  The parts of the main
statement are then read off that relation one by one.
-/

/-! ## Marked lines -/

/-- Lines with a mark on those that start or end after an odd number of backticks.  The flag
says that the first line starts after an odd number. -/
def marked (inside : Bool) : List (List Char) -> List (Bool × List Char)
  | [] => []
  | line :: rest =>
      (inside || xor inside (togglesTemplate false line), line) ::
        marked (xor inside (togglesTemplate false line)) rest

/-- Whether lines end after an odd number of backticks. -/
def endsInside (inside : Bool) : List (List Char) -> Bool
  | [] => inside
  | line :: rest => endsInside (xor inside (togglesTemplate false line)) rest

/-- A blank line without a mark. -/
def separator : Bool × List Char := (false, [])

@[simp] theorem map_snd_marked (inside : Bool) (lines : List (List Char)) :
    (marked inside lines).map Prod.snd = lines := by
  induction lines generalizing inside with
  | nil => rfl
  | cons line rest inductionHypothesis => rw [marked, List.map_cons, inductionHypothesis]

theorem marked_append (inside : Bool) (first second : List (List Char)) :
    marked inside (first ++ second) =
      marked inside first ++ marked (endsInside inside first) second := by
  induction first generalizing inside with
  | nil => rfl
  | cons line rest inductionHypothesis =>
      rw [List.cons_append, marked, marked, endsInside, inductionHypothesis, List.cons_append]

theorem endsInside_append (inside : Bool) (first second : List (List Char)) :
    endsInside inside (first ++ second) = endsInside (endsInside inside first) second := by
  induction first generalizing inside with
  | nil => rfl
  | cons line rest inductionHypothesis =>
      rw [List.cons_append, endsInside, endsInside, inductionHypothesis]

/-! ## Passes -/

/-- The blank line in front of a written line, when one is pending. -/
def spacing (pending : Bool) : List (Bool × List Char) :=
  if pending then [separator] else []

/-- What a pass does with marked lines.  The flags say that a line has been written, and that a
blank line is pending. -/
inductive Pass : Bool -> Bool -> List (Bool × List Char) -> List (Bool × List Char) -> Prop
  | finished {started pending : Bool} : Pass started pending [] []
  /-- A blank line without a mark is left out for now. -/
  | omitted {started pending : Bool} {line : List Char} {rest written : List (Bool × List Char)}
      (blank : Text.trimEndChars line = []) (later : Pass started started rest written) :
      Pass started pending ((false, line) :: rest) written
  /-- A marked line is kept. -/
  | literal {started pending : Bool} {line : List Char} {rest written : List (Bool × List Char)}
      (later : Pass true false rest written) :
      Pass started pending ((true, line) :: rest) (spacing pending ++ (true, line) :: written)
  /-- Any other line is trimmed. -/
  | trimmed {started pending : Bool} {line : List Char} {rest written : List (Bool × List Char)}
      (filled : Text.trimEndChars line ≠ []) (later : Pass true false rest written) :
      Pass started pending ((false, line) :: rest)
        (spacing pending ++ (false, Text.trimEndChars line) :: written)

/-- A line that is written keeps its mark.  A pending blank line in front of it has none,
because the place is outside template literals. -/
theorem marked_tidyLines {inside : Bool} {line : List Char} (keep : skipped inside line = false)
    {pending : Bool} (outside : pending = true -> inside = false) (started : Bool)
    (rest : List (List Char)) :
    marked inside (tidyLines ⟨inside, started, pending⟩ (line :: rest)) =
      spacing pending ++
        (inside || xor inside (togglesTemplate false line), copied inside line) ::
          marked (xor inside (togglesTemplate false line))
            (tidyLines ⟨xor inside (togglesTemplate false line), true, false⟩ rest) := by
  rw [tidyLines_of_not_skipped keep]
  cases pending with
  | false =>
      rw [if_neg Bool.false_ne_true, List.singleton_append, marked, togglesTemplate_copied]
      rfl
  | true =>
      cases outside rfl
      have blank : togglesTemplate false [] = false := rfl
      rw [if_pos rfl, List.cons_append, List.singleton_append, marked, marked, blank,
        Bool.xor_false, togglesTemplate_copied]
      rfl

/-- The formatter makes a pass. -/
theorem pass_tidyLines (lines : List (List Char)) (inside started pending : Bool)
    (outside : pending = true -> inside = false) :
    Pass started pending (marked inside lines)
      (marked inside (tidyLines ⟨inside, started, pending⟩ lines)) := by
  induction lines generalizing inside started pending with
  | nil => exact .finished
  | cons line rest inductionHypothesis =>
      cases skip : skipped inside line with
      | true =>
          rcases (skipped_iff inside line).mp skip with ⟨rfl, toggles, blank⟩
          rw [tidyLines_of_skipped skip, marked, toggles]
          exact .omitted blank (inductionHypothesis false started started fun _ => rfl)
      | false =>
          have later := inductionHypothesis (xor inside (togglesTemplate false line)) true false
            nofun
          rw [marked_tidyLines skip outside, marked, copied]
          cases mark : inside || xor inside (togglesTemplate false line) with
          | true => exact .literal later
          | false =>
              refine .trimmed (fun blank => ?_) later
              rw [skipped, copied, mark, if_neg Bool.false_ne_true, blank] at skip
              rw [Bool.or_eq_false_iff] at mark
              rw [mark.1] at skip
              cases skip

/-- A pass ends inside a template literal when the lines that it reads do. -/
theorem endsInside_tidyLines (lines : List (List Char)) (inside started pending : Bool)
    (outside : pending = true -> inside = false) :
    endsInside inside (tidyLines ⟨inside, started, pending⟩ lines) = endsInside inside lines := by
  induction lines generalizing inside started pending with
  | nil => rfl
  | cons line rest inductionHypothesis =>
      cases skip : skipped inside line with
      | true =>
          rcases (skipped_iff inside line).mp skip with ⟨rfl, toggles, _⟩
          rw [tidyLines_of_skipped skip, inductionHypothesis false started started fun _ => rfl,
            endsInside, toggles]
          rfl
      | false =>
          have later := inductionHypothesis (xor inside (togglesTemplate false line)) true false
            nofun
          rw [tidyLines_of_not_skipped skip, endsInside]
          cases pending with
          | false =>
              rw [if_neg Bool.false_ne_true, List.singleton_append, endsInside,
                togglesTemplate_copied, later]
          | true =>
              cases outside rfl
              have blank : togglesTemplate false [] = false := rfl
              rw [if_pos rfl, List.cons_append, List.singleton_append, endsInside, endsInside,
                blank, Bool.xor_false, togglesTemplate_copied, later]

/-! ## What passes write -/

theorem snd_ne_separator {line : List Char} (filled : line ≠ []) : (false, line) ≠ separator :=
  fun same => filled (congrArg Prod.snd same)

theorem fst_ne_separator (line : List Char) : (true, line) ≠ separator :=
  fun same => Bool.noConfusion (congrArg Prod.fst same)

namespace Pass

variable {started pending : Bool} {read written : List (Bool × List Char)}

/-- Marked lines are written as they are read, in order, and no others are marked. -/
theorem filter_fst (pass : Pass started pending read written) :
    written.filter Prod.fst = read.filter Prod.fst := by
  have unmarked (pending : Bool) : (spacing pending).filter Prod.fst = [] := by
    cases pending <;> rfl
  induction pass with
  | finished => rfl
  | omitted _ _ inductionHypothesis => exact inductionHypothesis
  | literal _ inductionHypothesis =>
      rw [List.filter_append, unmarked, List.nil_append, List.filter_cons_of_pos rfl,
        List.filter_cons_of_pos rfl, inductionHypothesis]
  | trimmed _ _ inductionHypothesis =>
      rw [List.filter_append, unmarked, List.nil_append,
        List.filter_cons_of_neg Bool.false_ne_true, List.filter_cons_of_neg Bool.false_ne_true,
        inductionHypothesis]

/-- Lines without a mark are written without blanks at their ends. -/
theorem trimmed_of_mem (pass : Pass started pending read written) {line : List Char}
    (member : (false, line) ∈ written) : Text.trimEndChars line = line := by
  have apart (pending : Bool) {line : List Char} (member : (false, line) ∈ spacing pending) :
      Text.trimEndChars line = line := by
    cases pending with
    | false => cases member
    | true =>
        cases List.mem_singleton.mp member
        rfl
  induction pass with
  | finished => cases member
  | omitted _ _ inductionHypothesis => exact inductionHypothesis member
  | literal _ inductionHypothesis =>
      rcases List.mem_append.mp member with space | member
      · exact apart _ space
      · rcases List.mem_cons.mp member with same | later
        · cases same
        · exact inductionHypothesis later
  | trimmed _ _ inductionHypothesis =>
      rcases List.mem_append.mp member with space | member
      · exact apart _ space
      · rcases List.mem_cons.mp member with same | later
        · cases same
          exact List.rdropWhile_idempotent _ _
        · exact inductionHypothesis later

/-- Of two lines that follow each other, one at most is a separator. -/
abbrev Apart (first second : Bool × List Char) : Prop :=
  first ≠ separator ∨ second ≠ separator

private theorem isChain_spacing {line : Bool × List Char} (filled : line ≠ separator)
    {lines : List (Bool × List Char)} (chain : lines.IsChain Apart) (pending : Bool) :
    (spacing pending ++ line :: lines).IsChain Apart := by
  have later : (line :: lines).IsChain Apart :=
    List.isChain_cons.mpr ⟨fun _ _ => .inl filled, chain⟩
  cases pending with
  | false => exact later
  | true => exact List.isChain_cons_cons.mpr ⟨.inr filled, later⟩

/-- No two separators follow each other. -/
theorem isChain (pass : Pass started pending read written) : written.IsChain Apart := by
  induction pass with
  | finished => exact .nil
  | omitted _ _ inductionHypothesis => exact inductionHypothesis
  | literal _ inductionHypothesis =>
      exact isChain_spacing (fst_ne_separator _) inductionHypothesis _
  | trimmed filled _ inductionHypothesis =>
      exact isChain_spacing (snd_ne_separator filled) inductionHypothesis _

/-- No separator is written first. -/
theorem head?_ne (pass : Pass started pending read written) (fresh : started = false)
    (settled : pending = false) : written.head? ≠ some separator := by
  induction pass with
  | finished => exact nofun
  | omitted _ _ inductionHypothesis => exact inductionHypothesis fresh fresh
  | literal _ _ =>
      cases settled
      exact fun same => fst_ne_separator _ (Option.some.inj same)
  | trimmed filled _ _ =>
      cases settled
      exact fun same => snd_ne_separator filled (Option.some.inj same)

private theorem getLast?_append_cons_ne {line : Bool × List Char} (filled : line ≠ separator)
    {lines : List (Bool × List Char)} (later : lines.getLast? ≠ some separator)
    (before : List (Bool × List Char)) :
    (before ++ line :: lines).getLast? ≠ some separator := by
  rw [List.getLast?_append_cons]
  cases lines with
  | nil => exact fun same => filled (Option.some.inj same)
  | cons next lines =>
      rw [List.getLast?_cons_cons]
      exact later

/-- No separator is written last. -/
theorem getLast?_ne (pass : Pass started pending read written) :
    written.getLast? ≠ some separator := by
  induction pass with
  | finished => exact nofun
  | omitted _ _ inductionHypothesis => exact inductionHypothesis
  | literal _ inductionHypothesis =>
      exact getLast?_append_cons_ne (fst_ne_separator _) inductionHypothesis _
  | trimmed filled _ inductionHypothesis =>
      exact getLast?_append_cons_ne (snd_ne_separator filled) inductionHypothesis _

end Pass

/-! ## Characters -/

/-- The characters of a text that are not blank. -/
def visible (characters : List Char) : List Char :=
  characters.filter (!Text.isBlank ·)

theorem visible_append (first second : List Char) :
    visible (first ++ second) = visible first ++ visible second :=
  List.filter_append ..

theorem visible_append_of_blank (characters : List Char) {blanks : List Char}
    (blank : ∀ character ∈ blanks, Text.isBlank character = true) :
    visible (characters ++ blanks) = visible characters := by
  have none : visible blanks = [] := by
    rw [visible, List.filter_eq_nil_iff]
    intro character member
    rw [blank character member]
    decide
  rw [visible_append, none, List.append_nil]

theorem visible_trimEndChars (line : List Char) :
    visible (Text.trimEndChars line) = visible line := by
  rcases exists_trimEndChars_append line with ⟨blanks, blank, same⟩
  nth_rewrite 2 [same]
  exact (visible_append_of_blank _ blank).symm

theorem visible_dropFinalReturn (line : List Char) :
    visible (Text.dropFinalReturn line) = visible line :=
  Text.apply_dropFinalReturn
    (fun line => visible_append_of_blank line (List.forall_mem_singleton.mpr rfl)) line

private theorem visible_flatten_linesFrom (reversed characters : List Char) :
    visible (Text.linesFrom reversed characters).flatten =
      visible (reversed.reverse ++ characters) := by
  induction characters generalizing reversed with
  | nil =>
      rw [Text.linesFrom, List.append_nil]
      split
      next empty =>
        rw [List.isEmpty_iff.mp empty]
        rfl
      next => rw [List.flatten_singleton]
  | cons character rest inductionHypothesis =>
      by_cases feed : character = '\n'
      · subst feed
        rw [Text.linesFrom, List.flatten_cons, visible_append, visible_dropFinalReturn,
          inductionHypothesis, visible_append, visible_append]
        rfl
      · rw [Text.linesFrom.eq_3 _ _ _ feed, inductionHypothesis, List.reverse_cons,
          List.append_assoc, List.singleton_append]

/-- Cutting a text into lines loses blanks only. -/
theorem visible_flatten_lines (characters : List Char) :
    visible (Text.lines characters).flatten = visible characters :=
  visible_flatten_linesFrom [] characters

theorem visible_ended (lines : List (List Char)) :
    visible (Text.ended lines) = visible lines.flatten := by
  induction lines with
  | nil => rfl
  | cons line rest inductionHypothesis =>
      rw [Text.ended_cons, List.flatten_cons, visible_append, visible_append,
        ← inductionHypothesis]
      rfl

/-- A pass loses blanks only. -/
theorem Pass.visible_eq {started pending : Bool} {read written : List (Bool × List Char)}
    (pass : Pass started pending read written) :
    visible (written.map Prod.snd).flatten = visible (read.map Prod.snd).flatten := by
  have empty (pending : Bool) : visible ((spacing pending).map Prod.snd).flatten = [] := by
    cases pending <;> rfl
  induction pass with
  | finished => rfl
  | @omitted _ _ line _ _ blank _ inductionHypothesis =>
      have none : visible line = [] := by
        rw [← visible_trimEndChars, blank]
        rfl
      rw [List.map_cons, List.flatten_cons, visible_append, none, inductionHypothesis]
      rfl
  | literal _ inductionHypothesis =>
      rw [List.map_append, List.flatten_append, visible_append, empty, List.nil_append,
        List.map_cons, List.map_cons, List.flatten_cons, List.flatten_cons, visible_append,
        visible_append, inductionHypothesis]
  | trimmed _ _ inductionHypothesis =>
      rw [List.map_append, List.flatten_append, visible_append, empty, List.nil_append,
        List.map_cons, List.map_cons, List.flatten_cons, List.flatten_cons, visible_append,
        visible_append, visible_trimEndChars, inductionHypothesis]

/-! ## Tidied texts -/

/-- The shape of the lines that are written for the lines that are read. -/
structure IsTidied (read written : List (List Char)) : Prop where
  /-- Marked lines are written as they are read, in order, and no others are marked. -/
  literal : (marked false written).filter Prod.fst = (marked false read).filter Prod.fst
  /-- Other lines have no blanks at their ends. -/
  trimmed : forall line : List Char,
    (false, line) ∈ marked false written -> Text.trimEndChars line = line
  /-- A blank line among them stands neither first nor last, -/
  first : (marked false written).head? ≠ some separator
  last : (marked false written).getLast? ≠ some separator
  /-- and no two of them follow each other. -/
  apart : (marked false written).IsChain Pass.Apart

theorem isTidied_tidyLines (lines : List (List Char)) :
    IsTidied lines (tidyLines .initial lines) := by
  have pass := pass_tidyLines lines false false false nofun
  exact ⟨pass.filter_fst, fun _ => pass.trimmed_of_mem, pass.head?_ne rfl rfl, pass.getLast?_ne,
    pass.isChain⟩

/-- Lines that do not end inside a template literal do not end with an empty line. -/
theorem IsTidied.ne_nil_of_concat {read before : List (List Char)} {line : List Char}
    (tidied : IsTidied read (before ++ [line]))
    (ends : endsInside false (before ++ [line]) = false) : line ≠ [] := by
  rintro rfl
  have blank : togglesTemplate false [] = false := rfl
  rw [endsInside_append, endsInside, endsInside, blank, Bool.xor_false] at ends
  apply tidied.last
  rw [marked_append, ends]
  exact List.getLast?_concat

/-- The text of such lines is empty or ends with one line feed. -/
theorem IsTidied.ended_eq_nil_or {read written : List (List Char)} (tidied : IsTidied read written)
    (within : ∀ line ∈ written, '\n' ∉ line) (ends : endsInside false written = false) :
    Text.ended written = [] ∨
      Exists fun front : List Char => Exists fun last : Char =>
        last ≠ '\n' ∧ Text.ended written = front ++ [last, '\n'] := by
  rcases List.eq_nil_or_concat' written with rfl | ⟨before, line, rfl⟩
  · exact .inl rfl
  · right
    rcases List.eq_nil_or_concat' line with rfl | ⟨front, last, rfl⟩
    · exact absurd rfl (tidied.ne_nil_of_concat ends)
    · refine ⟨Text.ended before ++ front, last, ?_, ?_⟩
      · rintro rfl
        exact within _ List.mem_concat_self List.mem_concat_self
      · simp [Text.ended]

/-- Tidying removes blanks only and gives its lines their shape: lines that start or end after
an odd number of backticks are written as they are read, other lines are trimmed, and blank
lines among those stand alone and between others.  Unless the backticks end with an odd number,
the text is empty or ends with exactly one line feed. -/
theorem tidy_shape (source : String) :
    visible (tidy source).toList = visible source.toList ∧
      Exists fun written : List (List Char) =>
        (tidy source).toList = Text.ended written ∧
        (∀ line ∈ written, '\n' ∉ line) ∧
        IsTidied (Text.lines source.toList) written ∧
        (endsInside false (Text.lines source.toList) = true ∨ tidy source = "" ∨
          Exists fun front : List Char => Exists fun last : Char =>
            last ≠ '\n' ∧ (tidy source).toList = front ++ [last, '\n']) := by
  let lines := Text.lines source.toList
  have characters : (tidy source).toList = Text.ended (writtenLines source.toList) := by
    rw [tidy, String.toList_ofList, tidyChars_eq]
  have pass := pass_tidyLines lines false false false (fun _ => rfl)
  have within := newline_not_mem_writtenLines source.toList
  constructor
  · have kept := pass.visible_eq
    rw [map_snd_marked, map_snd_marked] at kept
    rw [characters, visible_ended, ← visible_flatten_lines source.toList]
    exact kept
  · refine ⟨writtenLines source.toList, characters, within, isTidied_tidyLines lines, ?_⟩
    cases ends : endsInside false lines with
    | true => exact .inl rfl
    | false =>
        right
        have writtenEnds : endsInside false (writtenLines source.toList) = false :=
          (endsInside_tidyLines lines false false false (fun _ => rfl)).trans ends
        rw [characters]
        rcases (isTidied_tidyLines lines).ended_eq_nil_or within writtenEnds with empty | feed
        · exact .inl (String.toList_eq_nil_iff.mp (characters.trans empty))
        · exact .inr feed

end TypeScript
end OpenApiTypes
