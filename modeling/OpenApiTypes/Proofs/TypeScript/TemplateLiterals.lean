import OpenApiTypes.Proofs.TypeScript.Lexing

namespace OpenApiTypes
namespace TypeScript

/-!
# Template literals in a source text

Source text is read one character at a time, as far as this tells where template literals
begin and end: strings between quotes, comments, and template literals, whose interpolations
are source text again.  A string does not go on in the next line unless a backslash takes the
end of its line.  Regular expressions are not told from divisions.

The literals of a text are listed in the order in which they begin.  The contents of a literal
are all characters between its backticks, interpolations included, so a character may belong
to several of them.
-/

/-- The quotes of strings. -/
inductive Quote where
  | single
  | double
deriving DecidableEq

/-- The character of a quote. -/
def Quote.mark : Quote -> Char
  | .single => '\''
  | .double => '"'

/-- What has been begun in a source text. -/
inductive SourceMode where
  | code
  /-- Source text, behind a slash that may begin a comment. -/
  | slash
  | quoted (quote : Quote)
  /-- A string, behind a backslash. -/
  | escaping (quote : Quote)
  /-- A string, behind a backslash and a carriage return: a line feed belongs to the same end
  of the line. -/
  | continuing (quote : Quote)
  | lineComment
  | blockComment
  /-- A comment, behind a star that may begin its end. -/
  | star
  | template
  /-- A template literal, behind a backslash. -/
  | taking
  /-- A template literal, behind a dollar sign that may begin an interpolation. -/
  | dollar
deriving DecidableEq

/-- Whether the characters are those of a template literal, and not of an interpolation. -/
def SourceMode.isTemplate : SourceMode -> Bool
  | .template | .taking | .dollar => true
  | _ => false

/-- A place in a source text: what has been begun, and the number of braces that are open in
each interpolation around it, the innermost one first. -/
structure SourceState where
  mode : SourceMode
  braces : List Nat
deriving DecidableEq

/-- What a character does to template literals. -/
inductive Effect where
  /-- The character belongs to all literals that are open. -/
  | reads
  | opens
  | closes
deriving DecidableEq

namespace SourceState

/-- The place in front of a source text. -/
def initial : SourceState := ⟨.code, []⟩

/-- The number of template literals that are open. -/
def depth (state : SourceState) : Nat :=
  state.braces.length + if state.mode.isTemplate then 1 else 0

/-- Whether a source text may end here. -/
def isFinished (state : SourceState) : Bool :=
  state.braces.isEmpty &&
    (state.mode == .code || state.mode == .slash || state.mode == .lineComment)

/-- Where an opening brace leads in source text. -/
def openBrace : List Nat -> List Nat
  | [] => []
  | count :: outer => (count + 1) :: outer

/-- Where a closing brace leads in source text: one that has not been opened in an interpolation
ends it. -/
def closeBrace : List Nat -> SourceState
  | [] => ⟨.code, []⟩
  | 0 :: outer => ⟨.template, outer⟩
  | (count + 1) :: outer => ⟨.code, count :: outer⟩

/-- A character of source text. -/
def inCode (braces : List Nat) (character : Char) : Effect × SourceState :=
  if character = '`' then (.opens, ⟨.template, braces⟩)
  else if character = '\'' then (.reads, ⟨.quoted .single, braces⟩)
  else if character = '"' then (.reads, ⟨.quoted .double, braces⟩)
  else if character = '/' then (.reads, ⟨.slash, braces⟩)
  else if character = '{' then (.reads, ⟨.code, openBrace braces⟩)
  else if character = '}' then (.reads, closeBrace braces)
  else (.reads, ⟨.code, braces⟩)

/-- A character of a string. -/
def inQuotes (quote : Quote) (braces : List Nat) (character : Char) :
    Option (Effect × SourceState) :=
  if character = quote.mark then some (.reads, ⟨.code, braces⟩)
  else if character = '\\' then some (.reads, ⟨.escaping quote, braces⟩)
  else if character = '\n' || character = '\r' then none
  else some (.reads, ⟨.quoted quote, braces⟩)

/-- A character of a template literal. -/
def inTemplate (braces : List Nat) (character : Char) : Effect × SourceState :=
  if character = '`' then (.closes, ⟨.code, braces⟩)
  else if character = '\\' then (.reads, ⟨.taking, braces⟩)
  else if character = '$' then (.reads, ⟨.dollar, braces⟩)
  else (.reads, ⟨.template, braces⟩)

/-- Where the next character leads, and what it does. -/
def step : SourceState -> Char -> Option (Effect × SourceState)
  | ⟨.code, braces⟩, character => some (inCode braces character)
  | ⟨.slash, braces⟩, character =>
      if character = '/' then some (.reads, ⟨.lineComment, braces⟩)
      else if character = '*' then some (.reads, ⟨.blockComment, braces⟩)
      else some (inCode braces character)
  | ⟨.quoted quote, braces⟩, character => inQuotes quote braces character
  | ⟨.escaping quote, braces⟩, character =>
      if character = '\r' then some (.reads, ⟨.continuing quote, braces⟩)
      else some (.reads, ⟨.quoted quote, braces⟩)
  | ⟨.continuing quote, braces⟩, character =>
      if character = '\n' then some (.reads, ⟨.quoted quote, braces⟩)
      else inQuotes quote braces character
  | ⟨.lineComment, braces⟩, character =>
      if isLineTerminator character then some (.reads, ⟨.code, braces⟩)
      else some (.reads, ⟨.lineComment, braces⟩)
  | ⟨.blockComment, braces⟩, character =>
      if character = '*' then some (.reads, ⟨.star, braces⟩)
      else some (.reads, ⟨.blockComment, braces⟩)
  | ⟨.star, braces⟩, character =>
      if character = '/' then some (.reads, ⟨.code, braces⟩)
      else if character = '*' then some (.reads, ⟨.star, braces⟩)
      else some (.reads, ⟨.blockComment, braces⟩)
  | ⟨.template, braces⟩, character => some (inTemplate braces character)
  | ⟨.taking, braces⟩, _ => some (.reads, ⟨.template, braces⟩)
  | ⟨.dollar, braces⟩, character =>
      if character = '{' then some (.reads, ⟨.code, 0 :: braces⟩)
      else some (inTemplate braces character)

/-- Where several characters lead. -/
def run (state : SourceState) : List Char -> Option SourceState
  | [] => some state
  | character :: rest => (state.step character).bind fun taken => taken.2.run rest

end SourceState

/-- Parts of template literals, as seen from a place in a source text. -/
structure Literals where
  /-- What is left of the contents of those that are open, the innermost one first. -/
  left : List (List Char)
  /-- The contents of those that are opened later, in the order in which they begin. -/
  later : List (List Char)
deriving DecidableEq

/-- No literals are open, and none are opened. -/
def Literals.none : Literals := ⟨[], []⟩

/-- The literals as they are seen from the place in front of a character. -/
def Effect.record (character : Char) : Effect -> Literals -> Literals
  | .reads, literals => ⟨literals.left.map (character :: ·), literals.later⟩
  | .opens, ⟨[], later⟩ => ⟨[], later⟩
  | .opens, ⟨inner :: outer, later⟩ => ⟨outer.map (character :: ·), inner :: later⟩
  | .closes, literals => ⟨[] :: literals.left.map (character :: ·), literals.later⟩

namespace SourceState

/-- The literals of a source text from a place on; none where it cannot be read to its end. -/
def literals? (state : SourceState) : List Char -> Option Literals
  | [] => if state.isFinished then some .none else none
  | character :: rest =>
      (state.step character).bind fun taken =>
        (taken.2.literals? rest).map (taken.1.record character)

end SourceState

/-- The contents of the template literals of a source text. -/
def templateLiterals? (source : String) : Option (List (List Char)) :=
  (SourceState.initial.literals? source.toList).map Literals.later

/-! ## Open literals -/

/-- The number of literals that are open in front of a character, from the number behind it. -/
def Effect.before : Effect -> Nat -> Nat
  | .reads, behind => behind
  | .opens, behind => behind - 1
  | .closes, behind => behind + 1

theorem Effect.length_left_record (character : Char) (effect : Effect) (literals : Literals) :
    (effect.record character literals).left.length = effect.before literals.left.length := by
  rcases literals with ⟨left, later⟩
  cases effect with
  | reads => exact List.length_map _
  | closes => exact congrArg (· + 1) (List.length_map _)
  | opens =>
      cases left with
      | nil => rfl
      | cons inner outer => exact List.length_map _

namespace SourceState

section

variable {braces : List Nat} {character : Char} {effect : Effect} {next : SourceState}

theorem depth_inCode (taken : inCode braces character = (effect, next)) :
    effect.before next.depth = braces.length := by
  unfold inCode at taken
  split_ifs at taken <;> cases taken
  · rfl
  · rfl
  · rfl
  · rfl
  · cases braces <;> rfl
  · rcases braces with _ | ⟨_ | count, outer⟩ <;> rfl
  · rfl

theorem depth_inTemplate (taken : inTemplate braces character = (effect, next)) :
    effect.before next.depth = braces.length + 1 := by
  unfold inTemplate at taken
  split_ifs at taken <;> cases taken <;> rfl

theorem depth_inQuotes {quote : Quote}
    (taken : inQuotes quote braces character = some (effect, next)) :
    effect.before next.depth = braces.length := by
  unfold inQuotes at taken
  split_ifs at taken <;> cases taken <;> rfl

/-- A character opens and closes as many literals as it says. -/
theorem depth_step {state : SourceState}
    (taken : state.step character = some (effect, next)) :
    effect.before next.depth = state.depth := by
  rcases state with ⟨mode, braces⟩
  cases mode <;> rw [step] at taken
  case code => exact depth_inCode (Option.some.inj taken)
  case slash =>
    split_ifs at taken
    · cases taken
      rfl
    · cases taken
      rfl
    · exact depth_inCode (Option.some.inj taken)
  case quoted => exact depth_inQuotes taken
  case continuing =>
    split_ifs at taken
    · cases taken
      rfl
    · exact depth_inQuotes taken
  case template => exact depth_inTemplate (Option.some.inj taken)
  case taking =>
    cases taken
    rfl
  case dollar =>
    split_ifs at taken
    · cases taken
      rfl
    · exact depth_inTemplate (Option.some.inj taken)
  all_goals split_ifs at taken <;> cases taken <;> rfl

end

theorem depth_of_isFinished {state : SourceState} (finished : state.isFinished = true) :
    state.depth = 0 := by
  rcases state with ⟨mode, braces⟩
  rw [isFinished, Bool.and_eq_true, List.isEmpty_iff] at finished
  rcases finished with ⟨rfl, ends⟩
  cases mode with
  | template | taking | dollar => cases ends
  | _ => rfl

/-- From each place on, as many literals are left as are open. -/
theorem length_left {state : SourceState} {characters : List Char} {literals : Literals}
    (reads : state.literals? characters = some literals) :
    literals.left.length = state.depth := by
  induction characters generalizing state literals with
  | nil =>
      rw [literals?] at reads
      split_ifs at reads with finished
      cases reads
      exact (depth_of_isFinished finished).symm
  | cons character rest inductionHypothesis =>
      rw [literals?, Option.bind_eq_some_iff] at reads
      rcases reads with ⟨⟨effect, next⟩, taken, reads⟩
      rcases Option.map_eq_some_iff.mp reads with ⟨further, later, rfl⟩
      rw [Effect.length_left_record, inductionHypothesis later, depth_step taken]

/-! ## Reading on -/

theorem run_append (state : SourceState) (first second : List Char) :
    state.run (first ++ second) = (state.run first).bind fun next => next.run second := by
  induction first generalizing state with
  | nil => rfl
  | cons character rest inductionHypothesis =>
      rw [List.cons_append, run, run, Option.bind_assoc]
      exact Option.bind_congr fun taken _ => inductionHypothesis taken.2

/-- The literals as they are seen from the place in front of several characters. -/
def recordAll (state : SourceState) : List Char -> Literals -> Literals
  | [], literals => literals
  | character :: rest, literals =>
      match state.step character with
      | none => literals
      | some (effect, next) => effect.record character (next.recordAll rest literals)

/-- The literals of a text are seen from behind its first part, and then from the front. -/
theorem literals?_append (state : SourceState) (first second : List Char) :
    state.literals? (first ++ second) =
      (state.run first).bind fun next =>
        (next.literals? second).map (state.recordAll first) := by
  induction first generalizing state with
  | nil => exact Option.map_id'.symm
  | cons character rest inductionHypothesis =>
      rw [List.cons_append, literals?, run, Option.bind_assoc]
      refine Option.bind_congr fun ⟨effect, next⟩ taken => ?_
      rw [inductionHypothesis, Option.map_bind]
      refine Option.bind_congr fun last _ => ?_
      rw [Function.comp_apply, Option.map_map]
      refine congrArg (Option.map · (last.literals? second)) ?_
      funext literals
      rw [recordAll, taken]
      rfl

/-- Where a text can be read, so can its first part. -/
theorem literals?_append_eq_some_iff (state : SourceState) (first second : List Char)
    (literals : Literals) :
    state.literals? (first ++ second) = some literals ↔
      Exists fun next : SourceState => Exists fun further : Literals =>
        state.run first = some next ∧ next.literals? second = some further ∧
          state.recordAll first further = literals := by
  simp only [literals?_append, Option.bind_eq_some_iff, Option.map_eq_some_iff,
    exists_and_left]

end SourceState

/-! ## Blanks -/

/-- Characters in front of what is left of the open literals. -/
def Literals.pad (characters : List Char) (literals : Literals) : Literals :=
  ⟨literals.left.map (characters ++ ·), literals.later⟩

theorem Literals.pad_nil (literals : Literals) : literals.pad [] = literals := by
  rw [pad]
  exact congrArg (Literals.mk · literals.later) (List.map_id literals.left)

theorem Literals.pad_cons (character : Char) (characters : List Char) (literals : Literals) :
    literals.pad (character :: characters) =
      Effect.reads.record character (literals.pad characters) := by
  rw [pad, pad, Effect.record, List.map_map]
  rfl

theorem Literals.pad_of_left_eq_nil {literals : Literals} (closed : literals.left = [])
    (characters : List Char) : literals.pad characters = literals := by
  rw [pad, closed, List.map_nil, ← closed]

namespace SourceState

/-- The place behind a line feed; strings do not go on there. -/
def afterFeed : SourceState -> Option SourceState
  | ⟨.code, braces⟩ | ⟨.slash, braces⟩ | ⟨.lineComment, braces⟩ => some ⟨.code, braces⟩
  | ⟨.quoted _, _⟩ => none
  | ⟨.escaping quote, braces⟩ | ⟨.continuing quote, braces⟩ => some ⟨.quoted quote, braces⟩
  | ⟨.blockComment, braces⟩ | ⟨.star, braces⟩ => some ⟨.blockComment, braces⟩
  | ⟨.template, braces⟩ | ⟨.taking, braces⟩ | ⟨.dollar, braces⟩ => some ⟨.template, braces⟩

theorem step_feed (state : SourceState) :
    state.step '\n' = state.afterFeed.map (Effect.reads, ·) := by
  rcases state with ⟨mode, braces⟩
  cases mode with
  | quoted quote | escaping quote | continuing quote => cases quote <;> rfl
  | _ => rfl

/-- The number of open literals does not change at a line feed. -/
theorem depth_afterFeed {state next : SourceState} (feeds : state.afterFeed = some next) :
    next.depth = state.depth := by
  have taken : state.step '\n' = some (.reads, next) := by
    rw [step_feed, feeds]
    rfl
  exact depth_step taken

theorem afterFeed_of_isFinished {state : SourceState} (finished : state.isFinished = true) :
    state.afterFeed = some initial := by
  rcases state with ⟨mode, braces⟩
  rw [isFinished, Bool.and_eq_true, List.isEmpty_iff] at finished
  rcases finished with ⟨rfl, ends⟩
  cases mode with
  | code | slash | lineComment => rfl
  | _ => cases ends

section

variable {character : Char} (blank : Text.isBlank character = true) {effect : Effect}

include blank

theorem ne_of_isBlank {other : Char} (shown : Text.isBlank other = false) : character ≠ other := by
  rintro rfl
  rw [blank] at shown
  cases shown

theorem inCode_of_isBlank (braces : List Nat) :
    inCode braces character = (.reads, ⟨.code, braces⟩) := by
  rw [inCode, if_neg (ne_of_isBlank blank rfl), if_neg (ne_of_isBlank blank rfl),
    if_neg (ne_of_isBlank blank rfl), if_neg (ne_of_isBlank blank rfl),
    if_neg (ne_of_isBlank blank rfl), if_neg (ne_of_isBlank blank rfl)]

theorem inTemplate_of_isBlank (braces : List Nat) :
    inTemplate braces character = (.reads, ⟨.template, braces⟩) := by
  rw [inTemplate, if_neg (ne_of_isBlank blank rfl), if_neg (ne_of_isBlank blank rfl),
    if_neg (ne_of_isBlank blank rfl)]

theorem inQuotes_of_isBlank {quote : Quote} {braces : List Nat} {next : SourceState}
    (taken : inQuotes quote braces character = some (effect, next)) :
    effect = .reads ∧ next = ⟨.quoted quote, braces⟩ := by
  have mark : character ≠ quote.mark := by
    cases quote <;> exact ne_of_isBlank blank rfl
  rw [inQuotes, if_neg mark, if_neg (ne_of_isBlank blank rfl)] at taken
  split_ifs at taken
  cases taken
  exact ⟨rfl, rfl⟩

/-- A blank neither opens nor closes a literal.  The place behind it leads to the same place at
the end of the line, or the line cannot end, and the text can end there only if it can end
already. -/
theorem step_of_isBlank {state next : SourceState}
    (taken : state.step character = some (effect, next)) :
    effect = .reads ∧ (next.afterFeed = none ∨ next.afterFeed = state.afterFeed) ∧
      (next.isFinished = true -> state.isFinished = true) := by
  rcases state with ⟨mode, braces⟩
  have slash : character ≠ '/' := ne_of_isBlank blank rfl
  have star : character ≠ '*' := ne_of_isBlank blank rfl
  have brace : character ≠ '{' := ne_of_isBlank blank rfl
  cases mode <;> rw [step] at taken
  case code =>
    rw [inCode_of_isBlank blank] at taken
    cases taken
    exact ⟨rfl, .inr rfl, id⟩
  case slash =>
    rw [if_neg slash, if_neg star, inCode_of_isBlank blank] at taken
    cases taken
    exact ⟨rfl, .inr rfl, fun finished => finished⟩
  case quoted =>
    rcases inQuotes_of_isBlank blank taken with ⟨rfl, rfl⟩
    exact ⟨rfl, .inl rfl, id⟩
  case escaping =>
    split_ifs at taken <;> cases taken
    · exact ⟨rfl, .inr rfl, fun finished => finished⟩
    · exact ⟨rfl, .inl rfl, fun finished => finished⟩
  case continuing =>
    split_ifs at taken
    · cases taken
      exact ⟨rfl, .inl rfl, fun finished => finished⟩
    · rcases inQuotes_of_isBlank blank taken with ⟨rfl, rfl⟩
      exact ⟨rfl, .inl rfl, fun finished => finished⟩
  case lineComment =>
    split_ifs at taken <;> cases taken
    · exact ⟨rfl, .inr rfl, fun finished => finished⟩
    · exact ⟨rfl, .inr rfl, id⟩
  case blockComment =>
    rw [if_neg star] at taken
    cases taken
    exact ⟨rfl, .inr rfl, id⟩
  case star =>
    rw [if_neg slash, if_neg star] at taken
    cases taken
    exact ⟨rfl, .inr rfl, fun finished => finished⟩
  case template =>
    rw [inTemplate_of_isBlank blank] at taken
    cases taken
    exact ⟨rfl, .inr rfl, id⟩
  case taking =>
    cases taken
    exact ⟨rfl, .inr rfl, fun finished => finished⟩
  case dollar =>
    rw [if_neg brace, inTemplate_of_isBlank blank] at taken
    cases taken
    exact ⟨rfl, .inr rfl, fun finished => finished⟩

end

/-- The same for several blanks. -/
theorem run_of_isBlank {state next : SourceState} {blanks : List Char}
    (blank : ∀ character ∈ blanks, Text.isBlank character = true)
    (runs : state.run blanks = some next) :
    (next.afterFeed = none ∨ next.afterFeed = state.afterFeed) ∧
      (next.isFinished = true -> state.isFinished = true) ∧
      forall literals : Literals, state.recordAll blanks literals = literals.pad blanks := by
  induction blanks generalizing state with
  | nil =>
      cases runs
      exact ⟨.inr rfl, id, fun literals => literals.pad_nil.symm⟩
  | cons character rest inductionHypothesis =>
      rw [List.forall_mem_cons] at blank
      rw [run, Option.bind_eq_some_iff] at runs
      rcases runs with ⟨⟨effect, further⟩, taken, runs⟩
      rcases step_of_isBlank blank.1 taken with ⟨rfl, feeds, finished⟩
      rcases inductionHypothesis blank.2 runs with ⟨laterFeeds, laterFinished, records⟩
      refine ⟨?_, fun ends => finished (laterFinished ends), fun literals => ?_⟩
      · rcases laterFeeds with none | same
        · exact .inl none
        · rw [same]
          exact feeds
      · rw [recordAll, taken, Literals.pad_cons, ← records]

/-- A line feed leads on, and belongs to all literals that are open. -/
theorem literals?_feed (state : SourceState) (rest : List Char) :
    state.literals? ('\n' :: rest) =
      state.afterFeed.bind fun next => (next.literals? rest).map (Literals.pad ['\n']) := by
  rw [literals?, step_feed, Option.bind_map]
  rfl

/-- It belongs to them as their first character. -/
theorem feed_mem_left {state : SourceState} {rest : List Char} {literals : Literals}
    (reads : state.literals? ('\n' :: rest) = some literals) :
    ∀ literal ∈ literals.left, '\n' ∈ literal := by
  rw [literals?_feed, Option.bind_eq_some_iff] at reads
  rcases reads with ⟨next, _, reads⟩
  rcases Option.map_eq_some_iff.mp reads with ⟨further, _, rfl⟩
  exact List.forall_mem_map.mpr fun _ _ => List.mem_cons_self

/-- In front of the first line there is nothing for it to belong to. -/
theorem literals?_initial_feed (rest : List Char) :
    initial.literals? ('\n' :: rest) = initial.literals? rest := by
  have feeds : initial.afterFeed = some initial := rfl
  rw [literals?_feed, feeds, Option.bind_some]
  cases reads : initial.literals? rest with
  | none => rfl
  | some literals =>
      have closed : literals.left = [] := List.length_eq_zero_iff.mp (length_left reads)
      exact congrArg some (Literals.pad_of_left_eq_nil closed _)

theorem run_feed (state : SourceState) : state.run ['\n'] = state.afterFeed := by
  rw [run, step_feed, Option.bind_map]
  cases state.afterFeed <;> rfl

section

variable {state : SourceState} {blanks : List Char}
  (blank : ∀ character ∈ blanks, Text.isBlank character = true)

include blank

/-- Blanks at the end of a line can be left out; they belong to the literals that are open. -/
theorem literals?_blanks_feed {rest : List Char} {literals : Literals}
    (reads : state.literals? (blanks ++ '\n' :: rest) = some literals) :
    Exists fun further : Literals =>
      state.literals? ('\n' :: rest) = some further ∧ literals = further.pad blanks := by
  rcases (literals?_append_eq_some_iff ..).mp reads with ⟨next, further, runs, later, rfl⟩
  rcases run_of_isBlank blank runs with ⟨feeds, _, records⟩
  refine ⟨further, ?_, records further⟩
  rw [literals?_feed] at later ⊢
  rcases feeds with none | same
  · rw [none] at later
    cases later
  · rw [← same]
    exact later

theorem afterFeed_of_run {next : SourceState} (runs : state.run (blanks ++ ['\n']) = some next) :
    state.afterFeed = some next := by
  rw [run_append, Option.bind_eq_some_iff] at runs
  rcases runs with ⟨further, runs, feeds⟩
  rw [run_feed] at feeds
  rcases (run_of_isBlank blank runs).1 with none | same
  · rw [none] at feeds
    cases feeds
  · exact same.symm.trans feeds

/-- Where nothing but blanks is left, nothing is begun. -/
theorem literals?_blanks {literals : Literals} (reads : state.literals? blanks = some literals) :
    state.isFinished = true ∧ literals = .none := by
  rw [← List.append_nil blanks] at reads
  rcases (literals?_append_eq_some_iff ..).mp reads with ⟨next, further, runs, ends, rfl⟩
  rw [literals?] at ends
  split_ifs at ends with finished
  cases ends
  rcases run_of_isBlank blank runs with ⟨_, already, records⟩
  exact ⟨already finished, records .none⟩

end

end SourceState

end TypeScript
end OpenApiTypes
