import OpenApiTypes.Proofs.TypeScript.TemplateLiterals
import OpenApiTypes.Proofs.TypeScript.Tidy
import Mathlib.Data.List.Chain
import Mathlib.Data.List.Forall2

namespace OpenApiTypes
namespace TypeScript

/-!
# Template literals in a tidied text

The formatter only counts backticks, and takes a line for one of a template literal when their
number is odd in front of the line or behind it.  A backtick in a comment or a string is counted
as well, and so are those of a literal in an interpolation.  Carriage returns in front of line
feeds are gone before it counts.

Whatever it counts, a text that can be read is tidied into one that can be read, with the same
literals but for characters left out of those that span lines.  Nothing is left out exactly when
the line feeds inside literals have the three properties that are collected here: no carriage
return in front, blanks in front only on lines that the formatter takes for those of a
literal, and no two blank lines in a row that it does not.
-/

/-! ## Shortened literals -/

/-- What may become of the contents of a literal: some characters are left out, but none when
there is no line feed. -/
def Shortens (literal after : List Char) : Prop :=
  after.Sublist literal ∧ ('\n' ∉ literal -> after = literal)

theorem Shortens.refl (literal : List Char) : Shortens literal literal :=
  ⟨.refl literal, fun _ => rfl⟩

theorem Shortens.cons {literal after : List Char} (shortens : Shortens literal after)
    (character : Char) : Shortens (character :: literal) (character :: after) := by
  refine ⟨shortens.1.cons_cons character, fun absent => ?_⟩
  rw [shortens.2 (List.not_mem_of_not_mem_cons absent)]

/-- Characters in front of a line feed may be left out. -/
theorem Shortens.append_left {literal after : List Char} (shortens : Shortens literal after)
    (feeds : '\n' ∈ literal) (characters : List Char) :
    Shortens (characters ++ literal) after :=
  ⟨shortens.1.trans (List.sublist_append_right characters literal),
    fun absent => absurd (List.mem_append_right characters feeds) absent⟩

/-- What may become of the literals that are seen from a place. -/
structure Literals.Shorten (literals after : Literals) : Prop where
  left : List.Forall₂ Shortens literals.left after.left
  later : List.Forall₂ Shortens literals.later after.later

namespace Literals.Shorten

variable {literals after : Literals}

theorem refl (literals : Literals) : literals.Shorten literals :=
  ⟨List.forall₂_same.mpr fun literal _ => .refl literal,
    List.forall₂_same.mpr fun literal _ => .refl literal⟩

private theorem map_cons {left leftAfter : List (List Char)}
    (shorten : List.Forall₂ Shortens left leftAfter) (character : Char) :
    List.Forall₂ Shortens (left.map (character :: ·)) (leftAfter.map (character :: ·)) := by
  rw [List.forall₂_map_left_iff, List.forall₂_map_right_iff]
  exact shorten.imp fun _ _ shortens => shortens.cons character

theorem record (shorten : literals.Shorten after) (character : Char) (effect : Effect) :
    (effect.record character literals).Shorten (effect.record character after) := by
  rcases literals with ⟨left, later⟩
  rcases after with ⟨leftAfter, laterAfter⟩
  rcases shorten with ⟨shortenLeft, shortenLater⟩
  cases effect with
  | reads => exact ⟨map_cons shortenLeft character, shortenLater⟩
  | closes => exact ⟨.cons (.refl []) (map_cons shortenLeft character), shortenLater⟩
  | opens =>
      cases shortenLeft with
      | nil => exact ⟨.nil, shortenLater⟩
      | cons inner outer => exact ⟨map_cons outer character, .cons inner shortenLater⟩

theorem recordAll (shorten : literals.Shorten after) (state : SourceState)
    (characters : List Char) :
    (state.recordAll characters literals).Shorten (state.recordAll characters after) := by
  induction characters generalizing state with
  | nil => exact shorten
  | cons character rest inductionHypothesis =>
      rw [SourceState.recordAll, SourceState.recordAll]
      cases state.step character with
      | none => exact shorten
      | some taken => exact (inductionHypothesis taken.2).record character taken.1

theorem pad (shorten : literals.Shorten after)
    (feeds : ∀ literal ∈ literals.left, '\n' ∈ literal) (characters : List Char) :
    (literals.pad characters).Shorten after := by
  refine ⟨?_, shorten.later⟩
  rw [Literals.pad, List.forall₂_map_left_iff]
  exact ((List.forall₂_and_left _ _).mpr ⟨feeds, shorten.left⟩).imp fun _ _ both =>
    both.2.append_left both.1 characters

/-! Where nothing is left out of the literals, none of these steps leaves anything out, and the
other way around. -/

theorem record_eq_iff (shorten : literals.Shorten after) (character : Char) (effect : Effect) :
    effect.record character after = effect.record character literals ↔ after = literals := by
  have cons (left leftAfter : List (List Char)) :
      leftAfter.map (character :: ·) = left.map (character :: ·) ↔ leftAfter = left :=
    List.map_inj_right fun _ _ same => (List.cons.inj same).2
  rcases literals with ⟨left, later⟩
  rcases after with ⟨leftAfter, laterAfter⟩
  cases effect with
  | reads => simp only [Effect.record, Literals.mk.injEq, cons]
  | closes => simp only [Effect.record, Literals.mk.injEq, List.cons.injEq, true_and, cons]
  | opens =>
      cases shorten.left with
      | nil => rfl
      | cons =>
          simp only [Effect.record, Literals.mk.injEq, List.cons.injEq, cons]
          exact and_left_comm.trans and_assoc.symm

theorem recordAll_eq_iff (shorten : literals.Shorten after) (state : SourceState)
    (characters : List Char) :
    state.recordAll characters after = state.recordAll characters literals ↔
      after = literals := by
  induction characters generalizing state with
  | nil => exact .rfl
  | cons character rest inductionHypothesis =>
      rw [SourceState.recordAll, SourceState.recordAll]
      cases state.step character with
      | none => exact .rfl
      | some taken =>
          exact ((shorten.recordAll taken.2 rest).record_eq_iff character taken.1).trans
            (inductionHypothesis taken.2)

/-- Characters that are left out belong to all literals that are open. -/
theorem eq_pad_iff (shorten : literals.Shorten after) (characters : List Char) :
    after = literals.pad characters ↔
      (characters = [] ∨ literals.left = []) ∧ after = literals := by
  constructor
  · rintro rfl
    have none : characters = [] ∨ literals.left = [] := by
      rcases literals with ⟨_ | ⟨inner, outer⟩, later⟩
      · exact .inr rfl
      · have shorter := (List.forall₂_cons.mp shorten.left).1.1.length_le
        rw [List.length_append] at shorter
        exact .inl (List.length_eq_zero_iff.mp (by omega))
    refine ⟨none, ?_⟩
    rcases none with rfl | closed
    · exact literals.pad_nil
    · exact pad_of_left_eq_nil closed characters
  · rintro ⟨rfl | closed, rfl⟩
    · exact after.pad_nil.symm
    · exact (pad_of_left_eq_nil closed characters).symm

end Literals.Shorten

/-! ## Line feeds -/

/-- A line feed of a source text. -/
structure LineFeed where
  /-- The line in front of it, with the carriage return that may end the line. -/
  line : List Char
  /-- The line starts or ends after an odd number of backticks. -/
  marked : Bool
  /-- The line feed stands inside a template literal. -/
  inside : Bool
deriving DecidableEq

namespace LineFeed

/-- Tidying leaves nothing out in front of the line feed that belongs to a literal. -/
def IsKept (feed : LineFeed) : Prop :=
  feed.inside = true -> feed.line.getLast? ≠ some '\r' ∧
    (feed.marked = true ∨ Text.trimEndChars feed.line = feed.line)

/-- Tidying takes the line for a blank one between others. -/
def IsBlank (feed : LineFeed) : Prop :=
  feed.marked = false ∧ Text.trimEndChars feed.line = []

/-- Inside a literal, the lines of a line feed and the next one are not both blank. -/
def Apart (feed next : LineFeed) : Prop :=
  feed.inside = true -> feed.IsBlank -> ¬ next.IsBlank

end LineFeed

/-- The line feeds behind the given lines.  The flag says that the first line starts after an
odd number of backticks, and the state is that of the place in front of it. -/
def lineFeeds (odd : Bool) (state : SourceState) : List (List Char) -> List LineFeed
  | [] => []
  | line :: rest =>
      match state.run (line ++ ['\n']) with
      | none => []
      | some next =>
          ⟨line, odd || xor odd (togglesTemplate false line), next.depth != 0⟩ ::
            lineFeeds (xor odd (togglesTemplate false line)) next rest

theorem lineFeeds_cons {state next : SourceState} {line : List Char}
    (runs : state.run (line ++ ['\n']) = some next) (odd : Bool) (rest : List (List Char)) :
    lineFeeds odd state (line :: rest) =
      ⟨line, odd || xor odd (togglesTemplate false line), next.depth != 0⟩ ::
        lineFeeds (xor odd (togglesTemplate false line)) next rest := by
  rw [lineFeeds, runs]

/-- What line feeds need for tidying to keep all literals. -/
structure KeepsTemplates (feeds : List LineFeed) : Prop where
  kept : ∀ feed ∈ feeds, feed.IsKept
  apart : feeds.IsChain LineFeed.Apart

/-- The same for line feeds behind a place where the formatter may still have to write a blank
line. -/
def KeepsBehind (pending inside : Bool) (feeds : List LineFeed) : Prop :=
  KeepsTemplates feeds ∧
    (pending = true -> inside = true -> ∀ first ∈ feeds.head?, ¬ first.IsBlank)

theorem keepsTemplates_cons_iff {feed : LineFeed} {rest : List LineFeed} :
    KeepsTemplates (feed :: rest) ↔
      feed.IsKept ∧ (∀ next ∈ rest.head?, feed.Apart next) ∧ KeepsTemplates rest := by
  constructor
  · rintro ⟨kept, apart⟩
    rw [List.forall_mem_cons] at kept
    rw [List.isChain_cons] at apart
    exact ⟨kept.1, apart.1, kept.2, apart.2⟩
  · rintro ⟨kept, apart, keptLater, apartLater⟩
    exact ⟨List.forall_mem_cons.mpr ⟨kept, keptLater⟩, List.isChain_cons.mpr ⟨apart, apartLater⟩⟩

theorem keepsBehind_nil (pending inside : Bool) : KeepsBehind pending inside [] :=
  ⟨⟨nofun, .nil⟩, fun _ _ => nofun⟩

theorem keepsBehind_false_iff {inside : Bool} {feeds : List LineFeed} :
    KeepsBehind false inside feeds ↔ KeepsTemplates feeds :=
  and_iff_left nofun

section

variable {feed : LineFeed} {rest : List LineFeed}

/-- A line feed outside literals may be left out. -/
theorem keepsTemplates_cons_of_not_inside (outside : feed.inside = false) :
    KeepsTemplates (feed :: rest) ↔ KeepsTemplates rest := by
  have never {P : Prop} (inside : feed.inside = true) : P :=
    absurd (inside.symm.trans outside) Bool.noConfusion
  have kept : feed.IsKept := fun inside => never inside
  have apart : ∀ next ∈ rest.head?, feed.Apart next := fun _ _ inside => never inside
  rw [keepsTemplates_cons_iff, and_iff_right kept, and_iff_right apart]

theorem keepsBehind_cons_of_not_isBlank (filled : ¬ feed.IsBlank) (pending inside : Bool) :
    KeepsBehind pending inside (feed :: rest) ↔ feed.IsKept ∧ KeepsTemplates rest := by
  have first : ∀ next ∈ (feed :: rest).head?, ¬ next.IsBlank := by
    rintro next ⟨⟩
    exact filled
  have apart : ∀ next ∈ rest.head?, feed.Apart next := fun _ _ _ blank => absurd blank filled
  rw [KeepsBehind, and_iff_left fun _ _ => first, keepsTemplates_cons_iff, and_iff_right apart]

/-- Of a row of blank lines, one is kept, without the blanks in it. -/
theorem keepsBehind_cons_of_isBlank (blank : feed.IsBlank) (pending : Bool) :
    KeepsBehind pending feed.inside (feed :: rest) ↔
      (pending = false ∧ feed.line = [] ∨ feed.inside = false) ∧
        KeepsBehind true feed.inside rest := by
  have first : (∀ next ∈ (feed :: rest).head?, ¬ next.IsBlank) ↔ False :=
    iff_false_intro fun filled => filled feed rfl blank
  rw [KeepsBehind, KeepsBehind, keepsTemplates_cons_iff, first]
  cases inside : feed.inside with
  | false => simp [LineFeed.IsKept, LineFeed.Apart, inside]
  | true =>
      have kept : feed.IsKept ↔ feed.line = [] := by
        rw [LineFeed.IsKept, blank.1, blank.2]
        constructor
        · intro kept
          exact ((kept inside).2.resolve_left Bool.false_ne_true).symm
        · intro empty _
          rw [empty]
          exact ⟨nofun, .inr rfl⟩
      have apart (next : LineFeed) : feed.Apart next ↔ ¬ next.IsBlank :=
        ⟨fun apart => apart inside blank, fun filled _ _ => filled⟩
      simp only [kept, apart]
      cases pending <;> simp [and_comm]

end

/-! ## Lines -/

theorem trimEndChars_dropFinalReturn (line : List Char) :
    Text.trimEndChars (Text.dropFinalReturn line) = Text.trimEndChars line :=
  Text.apply_dropFinalReturn (fun line => List.rdropWhile_concat_pos Text.isBlank line _ rfl) line

theorem forall_isBlank_of_trimEndChars {line : List Char} (empty : Text.trimEndChars line = []) :
    ∀ character ∈ line, Text.isBlank character = true :=
  List.rdropWhile_eq_nil_iff.mp empty

/-- A line is what the formatter writes for it, and blanks. -/
theorem exists_copied_append (inside : Bool) (line : List Char) :
    Exists fun blanks : List Char =>
      (∀ character ∈ blanks, Text.isBlank character = true) ∧
        line = copied inside line ++ blanks := by
  unfold copied
  split
  · exact ⟨[], nofun, (List.append_nil line).symm⟩
  · exact exists_trimEndChars_append line

/-- The same for a line in front of a line feed. -/
theorem exists_copied_dropFinalReturn_append (inside : Bool) (line : List Char) :
    Exists fun blanks : List Char =>
      (∀ character ∈ blanks, Text.isBlank character = true) ∧
        line = copied inside (Text.dropFinalReturn line) ++ blanks := by
  rcases exists_copied_append inside (Text.dropFinalReturn line) with ⟨blanks, blank, same⟩
  rcases Text.eq_dropFinalReturn_or line with keeps | drops
  · exact ⟨blanks, blank, keeps.trans same⟩
  · refine ⟨blanks ++ ['\r'], ?_, ?_⟩
    · exact List.forall_mem_append.mpr ⟨blank, List.forall_mem_singleton.mpr rfl⟩
    · rw [← List.append_assoc, ← same]
      exact drops

section

variable (odd inside : Bool) (line : List Char)

/-- The formatter leaves out the lines of blank line feeds. -/
theorem isBlank_iff_skipped :
    LineFeed.IsBlank ⟨line, odd || xor odd (togglesTemplate false line), inside⟩ ↔
      skipped odd (Text.dropFinalReturn line) = true := by
  rw [skipped_iff, togglesTemplate_dropFinalReturn, trimEndChars_dropFinalReturn,
    LineFeed.IsBlank, ← and_assoc]
  have neither : ∀ odd toggles : Bool,
      (odd || xor odd toggles) = false ↔ odd = false ∧ toggles = false := by
    decide
  exact and_congr_left fun _ => neither odd _

/-- What is in front of a line feed is kept when nothing of the line is left out. -/
theorem isKept_iff_copied :
    LineFeed.IsKept ⟨line, odd || xor odd (togglesTemplate false line), inside⟩ ↔
      (inside = true -> copied odd (Text.dropFinalReturn line) = line) := by
  refine imp_congr_right fun _ => ?_
  rw [copied, togglesTemplate_dropFinalReturn, trimEndChars_dropFinalReturn]
  cases odd || xor odd (togglesTemplate false line) with
  | true =>
      rw [if_pos rfl, Text.dropFinalReturn_eq_self_iff]
      exact and_iff_left (.inl rfl)
  | false =>
      rw [if_neg Bool.false_ne_true, or_iff_right Bool.false_ne_true]
      refine and_iff_right_of_imp fun trimmed => ?_
      rw [← trimmed]
      exact getLast?_trimEndChars_ne line

end

/-! ## Tidying from a place on -/

/-- From a place on, one text can be read when another one can, with the same literals but for
characters that are left out.  The condition says when none are. -/
def Tidies (state : SourceState) (text written : List Char) (condition : Prop) : Prop :=
  forall literals : Literals, state.literals? text = some literals ->
    Exists fun after : Literals =>
      state.literals? written = some after ∧ literals.Shorten after ∧
        (after = literals ↔ condition)

namespace Tidies

variable {state : SourceState} {text written : List Char} {condition : Prop}

theorem of_iff {other : Prop} (tidies : Tidies state text written condition)
    (same : condition ↔ other) : Tidies state text written other := by
  rw [← propext same]
  exact tidies

/-- The first part of the text may be taken for one that can be read. -/
theorem of_run (front : List Char)
    (tidies : forall next : SourceState,
      state.run front = some next -> Tidies state (front ++ text) written condition) :
    Tidies state (front ++ text) written condition := by
  intro literals reads
  rcases (SourceState.literals?_append_eq_some_iff ..).mp reads with ⟨next, _, runs, _⟩
  exact tidies next runs literals reads

/-- In front of the first line, line feeds may be left out. -/
theorem initialFeed (tidies : Tidies .initial text written condition) :
    Tidies .initial ('\n' :: text) written condition := by
  intro literals reads
  rw [SourceState.literals?_initial_feed] at reads
  exact tidies literals reads

/-- The texts may have a common first part. -/
theorem append (front : List Char)
    (tidies : forall next : SourceState,
      state.run front = some next -> Tidies next text written condition) :
    Tidies state (front ++ text) (front ++ written) condition := by
  intro literals reads
  rcases (SourceState.literals?_append_eq_some_iff ..).mp reads with
    ⟨next, further, runs, later, rfl⟩
  rcases tidies next runs further later with ⟨after, laterAfter, shorten, same⟩
  refine ⟨state.recordAll front after, ?_, shorten.recordAll state front, ?_⟩
  · exact (SourceState.literals?_append_eq_some_iff ..).mpr ⟨next, after, runs, laterAfter, rfl⟩
  · exact (shorten.recordAll_eq_iff state front).trans same

theorem feed {next : SourceState} (feeds : state.afterFeed = some next)
    (tidies : Tidies next text written condition) :
    Tidies state ('\n' :: text) ('\n' :: written) condition := by
  refine append ['\n'] fun further runs => ?_
  rw [SourceState.run_feed, feeds] at runs
  cases runs
  exact tidies

variable {blanks : List Char} (blank : ∀ character ∈ blanks, Text.isBlank character = true)

include blank

/-- Blanks in front of a line feed may be left out. -/
theorem trail
    (tidies : Tidies state ('\n' :: text) written condition) :
    Tidies state (blanks ++ '\n' :: text) written
      ((blanks = [] ∨ state.depth = 0) ∧ condition) := by
  intro literals reads
  rcases SourceState.literals?_blanks_feed blank reads with ⟨further, later, rfl⟩
  rcases tidies further later with ⟨after, readsAfter, shorten, same⟩
  refine ⟨after, readsAfter, shorten.pad (SourceState.feed_mem_left later) blanks, ?_⟩
  rw [shorten.eq_pad_iff, same, ← SourceState.length_left later, List.length_eq_zero_iff]

/-- Blanks at the end of a text may be left out, -/
theorem finish : Tidies state blanks [] True := by
  intro literals reads
  rcases SourceState.literals?_blanks blank reads with ⟨finished, rfl⟩
  exact ⟨.none, if_pos finished, .refl .none, iff_of_true rfl trivial⟩

/-- and a line feed may end it. -/
theorem finishFeed : Tidies state blanks ['\n'] True := by
  intro literals reads
  rcases SourceState.literals?_blanks blank reads with ⟨finished, rfl⟩
  refine ⟨.none, ?_, .refl .none, iff_of_true rfl trivial⟩
  rw [SourceState.literals?_feed, SourceState.afterFeed_of_isFinished finished]
  rfl

end Tidies

/-! ## Tidying lines -/

/-- The line feed of a blank line that has not been written yet. -/
def gap (pending : Bool) : List Char :=
  if pending then ['\n'] else []

theorem isBlank_gap (pending : Bool) :
    ∀ character ∈ gap pending, Text.isBlank character = true := by
  cases pending with
  | false => exact nofun
  | true => exact List.forall_mem_singleton.mpr rfl

theorem gap_append_eq_nil_iff {pending : Bool} {line : List Char} :
    gap pending ++ line = [] ↔ pending = false ∧ line = [] := by
  cases pending <;> simp [gap]

theorem ended_tidyLines_of_not_skipped {inside : Bool} {line : List Char}
    (keep : skipped inside line = false) (started pending : Bool) (rest : List (List Char)) :
    Text.ended (tidyLines ⟨inside, started, pending⟩ (line :: rest)) =
      gap pending ++ copied inside line ++ '\n' ::
        Text.ended (tidyLines ⟨xor inside (togglesTemplate false line), true, false⟩ rest) := by
  rw [tidyLines_of_not_skipped keep]
  cases pending <;> simp [gap]

/-- The rest of a text without a line feed, in front of which a blank line may be pending. -/
theorem tidies_last (tidying : TidyState) (state : SourceState) {last : List Char}
    (within : '\n' ∉ last) :
    Tidies state (gap tidying.pending ++ last)
      (Text.ended (tidyLines tidying (Text.lines last))) True := by
  rcases tidying with ⟨inside, started, pending⟩
  by_cases empty : last = []
  · subst empty
    rw [List.append_nil]
    exact Tidies.finish (isBlank_gap pending)
  · rw [Text.lines_of_not_mem within empty]
    cases skip : skipped inside last with
    | true =>
        have blank := forall_isBlank_of_trimEndChars ((skipped_iff inside last).mp skip).2.2
        rw [tidyLines_of_skipped skip]
        exact Tidies.finish (List.forall_mem_append.mpr ⟨isBlank_gap pending, blank⟩)
    | false =>
        rcases exists_copied_append inside last with ⟨blanks, blank, same⟩
        rw [ended_tidyLines_of_not_skipped skip, tidyLines]
        nth_rewrite 1 [same]
        rw [← List.append_assoc]
        exact Tidies.append _ fun next _ => Tidies.finishFeed blank

/-- The formatter agrees with two places: the one in the text that it writes, and the one in the
text that it reads, where the line feed of a pending blank line has been read. -/
structure Between (tidying : TidyState) (state start : SourceState) : Prop where
  fresh : tidying.started = false -> tidying.pending = false ∧ state = .initial
  runs : state.run (gap tidying.pending) = some start

/-- Tidying the lines of a text from such places on. -/
def TidiesLines (tidying : TidyState) (state start : SourceState) (lines : List (List Char))
    (last : List Char) : Prop :=
  Tidies state (gap tidying.pending ++ (Text.ended lines ++ last))
    (Text.ended (tidyLines tidying (lines.map Text.dropFinalReturn ++ Text.lines last)))
    (KeepsBehind tidying.pending (start.depth != 0) (lineFeeds tidying.inside start lines))

section

variable {inside started pending : Bool} {state start : SourceState} {line : List Char}
  {rest : List (List Char)} {last : List Char}

/-- The first line may be taken for one that can be read. -/
theorem tidies_line {written : List Char} (between : state.run (gap pending) = some start)
    (tidies : forall next : SourceState,
      state.run (gap pending ++ (line ++ ['\n'])) = some next ->
      start.run (line ++ ['\n']) = some next ->
      Tidies state (gap pending ++ (line ++ '\n' :: (Text.ended rest ++ last))) written
        (KeepsBehind pending (start.depth != 0)
          (⟨line, inside || xor inside (togglesTemplate false line), next.depth != 0⟩ ::
            lineFeeds (xor inside (togglesTemplate false line)) next rest))) :
    Tidies state (gap pending ++ (Text.ended (line :: rest) ++ last)) written
      (KeepsBehind pending (start.depth != 0) (lineFeeds inside start (line :: rest))) := by
  have text : gap pending ++ (Text.ended (line :: rest) ++ last) =
      (gap pending ++ (line ++ ['\n'])) ++ (Text.ended rest ++ last) := by
    rw [Text.ended_cons]
    simp only [List.append_assoc, List.cons_append, List.nil_append]
  rw [text]
  refine Tidies.of_run _ fun next runs => ?_
  have runsLine := runs
  rw [SourceState.run_append, between, Option.bind_some] at runsLine
  rw [lineFeeds_cons runsLine, List.append_assoc, List.append_assoc]
  exact tidies next runs runsLine

/-- A line that is left out for now leaves a blank line pending, except in front of the first
line that is written. -/
theorem tidiesLines_of_skipped
    (between : Between ⟨inside, started, pending⟩ state start)
    (skip : skipped inside (Text.dropFinalReturn line) = true)
    (later : forall start : SourceState, Between ⟨false, started, started⟩ state start ->
      TidiesLines ⟨false, started, started⟩ state start rest last) :
    TidiesLines ⟨inside, started, pending⟩ state start (line :: rest) last := by
  rcases (skipped_iff inside _).mp skip with ⟨rfl, toggles, empty⟩
  rw [togglesTemplate_dropFinalReturn] at toggles
  rw [trimEndChars_dropFinalReturn] at empty
  have blankLine := forall_isBlank_of_trimEndChars empty
  have blank := List.forall_mem_append.mpr ⟨isBlank_gap pending, blankLine⟩
  rw [TidiesLines, List.map_cons, List.cons_append, tidyLines_of_skipped skip]
  refine tidies_line between.runs fun next runs runsLine => ?_
  rw [← List.append_assoc] at runs
  have feeds : state.afterFeed = some next := SourceState.afterFeed_of_run blank runs
  have depth : next.depth = start.depth :=
    SourceState.depth_afterFeed (SourceState.afterFeed_of_run blankLine runsLine)
  have isBlank := (isBlank_iff_skipped false (next.depth != 0) line).mpr skip
  rw [toggles] at isBlank ⊢
  rw [← depth, ← List.append_assoc]
  cases started with
  | true =>
      have between : Between ⟨false, true, true⟩ state next :=
        ⟨nofun, (SourceState.run_feed state).trans feeds⟩
      refine (Tidies.trail blank (later next between)).of_iff ?_
      rw [keepsBehind_cons_of_isBlank isBlank, gap_append_eq_nil_iff,
        ← SourceState.depth_afterFeed feeds, bne_eq_false_iff_eq]
      rfl
  | false =>
      rcases between.fresh rfl with ⟨rfl, rfl⟩
      cases feeds
      have between : Between ⟨false, false, false⟩ .initial .initial := ⟨fun _ => ⟨rfl, rfl⟩, rfl⟩
      refine (Tidies.trail blank (Tidies.initialFeed (later .initial between))).of_iff ?_
      rw [and_iff_right (.inr rfl), keepsBehind_false_iff, keepsBehind_false_iff,
        keepsTemplates_cons_of_not_inside rfl]
      rfl

/-- A line that is written loses blanks at its end. -/
theorem tidiesLines_of_not_skipped
    (between : Between ⟨inside, started, pending⟩ state start)
    (keep : skipped inside (Text.dropFinalReturn line) = false)
    (later : forall next : SourceState,
      TidiesLines ⟨xor inside (togglesTemplate false line), true, false⟩ next next rest last) :
    TidiesLines ⟨inside, started, pending⟩ state start (line :: rest) last := by
  rcases exists_copied_dropFinalReturn_append inside line with ⟨blanks, blank, cut⟩
  have front (further : List Char) : gap pending ++ (line ++ further) =
      (gap pending ++ copied inside (Text.dropFinalReturn line)) ++ (blanks ++ further) := by
    nth_rewrite 1 [cut]
    simp only [List.append_assoc]
  rw [TidiesLines, List.map_cons, List.cons_append, ended_tidyLines_of_not_skipped keep,
    togglesTemplate_dropFinalReturn]
  refine tidies_line between.runs fun next runs _ => ?_
  rw [front] at runs ⊢
  refine Tidies.append _ fun middle runsMiddle => ?_
  rw [SourceState.run_append, runsMiddle, Option.bind_some] at runs
  have feeds : middle.afterFeed = some next := SourceState.afterFeed_of_run blank runs
  refine (Tidies.trail blank (Tidies.feed feeds (later next))).of_iff ?_
  have filled := mt (isBlank_iff_skipped inside (next.depth != 0) line).mp (keep ▸ nofun)
  have whole : copied inside (Text.dropFinalReturn line) = line ↔ blanks = [] := by
    nth_rewrite 2 [cut]
    exact List.self_eq_append_right
  rw [keepsBehind_cons_of_not_isBlank filled, keepsBehind_false_iff, isKept_iff_copied,
    ← SourceState.depth_afterFeed feeds, bne_iff_ne, whole]
  exact and_congr_left' or_iff_not_imp_right

end

/-- Lines are tidied one by one, and the last one need not end with a line feed. -/
theorem tidiesLines (lines : List (List Char)) {last : List Char} (within : '\n' ∉ last)
    (tidying : TidyState) {state start : SourceState} (between : Between tidying state start) :
    TidiesLines tidying state start lines last := by
  induction lines generalizing tidying state start with
  | nil =>
      exact (tidies_last tidying state within).of_iff (iff_of_true trivial (keepsBehind_nil ..))
  | cons line rest inductionHypothesis =>
      rcases tidying with ⟨inside, started, pending⟩
      cases skip : skipped inside (Text.dropFinalReturn line) with
      | true =>
          exact tidiesLines_of_skipped between skip fun _ => inductionHypothesis _
      | false =>
          exact tidiesLines_of_not_skipped between skip fun _ =>
            inductionHypothesis _ ⟨nofun, rfl⟩

/-! ## Tidied texts -/

/-- The line feeds of a source text. -/
def sourceFeeds (source : String) : List LineFeed :=
  lineFeeds false .initial (Text.splitAt '\n' source.toList).dropLast

/-- The contents of a literal that does not stand on one line. -/
def SpansLines (literal : List Char) : Prop :=
  ∃ character ∈ literal, isLineTerminator character = true

theorem tidies_source (source : String) :
    Tidies .initial source.toList (tidy source).toList (KeepsTemplates (sourceFeeds source)) := by
  rcases Text.exists_ended_append source.toList with ⟨lines, last, within, lastWithin, text⟩
  have feeds : sourceFeeds source = lineFeeds false .initial lines := by
    rw [sourceFeeds, text, Text.splitAt_ended_append within lastWithin, List.dropLast_concat]
  have written : (tidy source).toList =
      Text.ended (tidyLines .initial (lines.map Text.dropFinalReturn ++ Text.lines last)) := by
    rw [tidy, String.toList_ofList, tidyChars_eq, writtenLines, text,
      Text.lines_ended_append within]
  rw [feeds, written, text]
  exact (tidiesLines lines lastWithin .initial ⟨fun _ => ⟨rfl, rfl⟩, rfl⟩).of_iff
    keepsBehind_false_iff

/-- Literals that keep what spans lines are kept as a whole. -/
theorem forall₂_spansLines_iff {literals after : List (List Char)}
    (shorten : List.Forall₂ Shortens literals after) :
    List.Forall₂ (fun literal after => SpansLines literal -> after = literal) literals after ↔
      after = literals := by
  constructor
  · intro keeps
    have same : List.Forall₂ (fun literal after => literal = after) literals after := by
      refine List.Forall₂.mp (fun literal after keep shortens => ?_) keeps shorten
      by_cases feeds : '\n' ∈ literal
      · exact (keep ⟨'\n', feeds, rfl⟩).symm
      · exact (shortens.2 feeds).symm
    exact (List.forall₂_eq_eq_eq ▸ same).symm
  · rintro rfl
    exact List.forall₂_same.mpr fun _ _ _ => rfl

/-- A source text that can be read is tidied into one with the same template literals, but for
characters that are left out of those that span lines.  All that span lines are kept exactly when
no line feed in a literal has a carriage return in front, blanks in front have been taken for
those of a literal, and no two lines in a row inside a literal have been taken for blank ones. -/
theorem tidy_keeps_templates_iff {source : String} {literals : List (List Char)}
    (reads : templateLiterals? source = some literals) :
    Exists fun after : List (List Char) =>
      templateLiterals? (tidy source) = some after ∧ List.Forall₂ Shortens literals after ∧
        (List.Forall₂ (fun literal after => SpansLines literal -> after = literal) literals after ↔
          KeepsTemplates (sourceFeeds source)) := by
  rcases Option.map_eq_some_iff.mp reads with ⟨⟨left, later⟩, readsAll, rfl⟩
  rcases tidies_source source _ readsAll with ⟨⟨leftAfter, laterAfter⟩, written, shorten, same⟩
  refine ⟨laterAfter, ?_, shorten.later, ?_⟩
  · rw [templateLiterals?, written]
    rfl
  · have none : left = [] := List.length_eq_zero_iff.mp (SourceState.length_left readsAll)
    have noneAfter : leftAfter = [] :=
      List.length_eq_zero_iff.mp (SourceState.length_left written)
    rw [forall₂_spansLines_iff shorten.later, ← same, none, noneAfter, Literals.mk.injEq]
    exact (and_iff_right rfl).symm

/-- A literal with a blank line and blanks at the ends of its lines. -/
theorem tidy_keeps_templates_iff_blankLine :
    templateLiterals? "f(`a  \n\n\n${b}  `)  \n" = some ["a  \n\n\n${b}  ".toList] ∧
      Exists fun after : List (List Char) =>
        templateLiterals? (tidy "f(`a  \n\n\n${b}  `)  \n") = some after ∧
          List.Forall₂ Shortens ["a  \n\n\n${b}  ".toList] after ∧
          (List.Forall₂ (fun literal after => SpansLines literal -> after = literal)
              ["a  \n\n\n${b}  ".toList] after ↔
            KeepsTemplates (sourceFeeds "f(`a  \n\n\n${b}  `)  \n")) :=
  ⟨by decide, tidy_keeps_templates_iff (by decide)⟩

/-- A backtick in a comment makes the formatter take the lines of the literal behind it for
others, so it strips the blanks behind the y. -/
theorem tidy_template_backtickInComment :
    templateLiterals? "// `\nconst a = `x\ny  \nz`;\n" = some ["x\ny  \nz".toList] ∧
      templateLiterals? (tidy "// `\nconst a = `x\ny  \nz`;\n") = some ["x\ny\nz".toList] := by
  decide

end TypeScript
end OpenApiTypes
