import OpenApiTypes.Proofs.TypeScript.Lexing

namespace OpenApiTypes
namespace TypeScript

/-!
# Texts put between quotes as they are

A text that is put between single quotes without escapes is a string of that value only
if nothing in it needs an escape.  A quote in it ends the string early and a backslash
takes the next character with it, so either way the value gets shorter than the text.
-/

/-- No character of the text needs an escape, or cannot stand in a string at all. -/
def StandsVerbatim (text : String) : Prop :=
  ∀ character ∈ text.toList, character ∉ ['\'', '\\'] ∧ isLineTerminator character = false

instance (text : String) : Decidable (StandsVerbatim text) :=
  List.decidableBAll
    (fun character => character ∉ ['\'', '\\'] ∧ isLineTerminator character = false) text.toList

theorem standsVerbatim_append (first second : String) :
    StandsVerbatim (first ++ second) ↔ StandsVerbatim first ∧ StandsVerbatim second := by
  rw [StandsVerbatim, String.toList_append, List.forall_mem_append]
  rfl

/-- Such a text is its own escaped form. -/
theorem escapeChars_of_standsVerbatim {text : String} (stands : StandsVerbatim text) :
    Naming.escapeChars text.toList = text.toList := by
  have single : ∀ character ∈ text.toList, Naming.escapeChar character = [character] := by
    intro character member
    have plain := (stands character member).1
    simp only [List.mem_cons, List.not_mem_nil, or_false, not_or] at plain
    rw [Naming.escapeChar, if_neg plain.2, if_neg plain.1]
  rw [Naming.escapeChars, List.flatMap_congr single, List.flatMap_singleton']

namespace LexState

/-- What the next character does inside a string. -/
theorem run_quoted_cons (read : List Char) (character : Char) (rest : List Char) :
    (LexState.quoted '\'' read).run (character :: rest) =
      if character = '\'' then (LexState.between.run rest).map (.string (readText read) :: ·)
      else if character = '\\' then (LexState.escaping '\'' read).run rest
      else if isLineTerminator character then none
      else (LexState.quoted '\'' (character :: read)).run rest := by
  rw [run, step]
  split
  next => rfl
  next =>
    split
    next => exact Option.map_id'
    next =>
      split
      next => rfl
      next => exact Option.map_id'

/-- A string is read off more characters than it has, also when an escape has begun. -/
theorem length_lt_of_run {state : LexState} {read : List Char}
    (inside : state = .quoted '\'' read ∨ state = .escaping '\'' read)
    {characters : List Char} {value : String} {more : List Token}
    (reads : state.run characters = some (.string value :: more)) :
    value.length < read.length + characters.length := by
  induction characters generalizing state read with
  | nil => rcases inside with rfl | rfl <;> cases reads
  | cons character characters inductionHypothesis =>
      rw [List.length_cons]
      rcases inside with rfl | rfl
      · rw [run_quoted_cons] at reads
        split at reads
        next =>
          obtain ⟨tokens, _, same⟩ := Option.map_eq_some_iff.mp reads
          cases same
          rw [readText, String.length_ofList, List.length_reverse]
          omega
        next =>
          split at reads
          next =>
            have shorter := inductionHypothesis (.inr rfl) reads
            omega
          next =>
            split at reads
            next => cases reads
            next =>
              have shorter := inductionHypothesis (.inl rfl) reads
              rw [List.length_cons] at shorter
              omega
      · cases stands : escaped? character with
        | none =>
            rw [run, step, stands] at reads
            cases reads
        | some meant =>
            have silent : (LexState.escaping '\'' read).step character =
                some ([], .quoted '\'' (meant :: read)) := by
              rw [step, stands]
              rfl
            rw [run_cons_of_silent silent] at reads
            have shorter := inductionHypothesis (.inl rfl) reads
            rw [List.length_cons] at shorter
            omega

/-- Where a string is read as its own text, no character needed an escape. -/
theorem standsVerbatim_of_run {read text : List Char}
    (reads : (LexState.quoted '\'' read).run (text ++ ['\'']) =
      some [.string (String.ofList (read.reverse ++ text))]) :
    ∀ character ∈ text, character ∉ ['\'', '\\'] ∧ isLineTerminator character = false := by
  induction text generalizing read with
  | nil => exact fun _ member => absurd member List.not_mem_nil
  | cons character text inductionHypothesis =>
      rw [List.cons_append, run_quoted_cons] at reads
      split at reads
      next =>
        -- The string ends before it is as long as the text.
        obtain ⟨tokens, _, same⟩ := Option.map_eq_some_iff.mp reads
        have lengths := congrArg String.length (Token.string.inj (List.cons.inj same).1)
        rw [readText, String.length_ofList, String.length_ofList, List.length_append,
          List.length_cons, List.length_reverse] at lengths
        omega
      next notQuote =>
        split at reads
        next =>
          have shorter := length_lt_of_run (.inr rfl) reads
          rw [String.length_ofList, List.length_append, List.length_append, List.length_reverse,
            List.length_cons, List.length_singleton] at shorter
          omega
        next notBackslash =>
          split at reads
          next => cases reads
          next onLine =>
            have later := inductionHypothesis (reads.trans (by simp))
            rw [List.forall_mem_cons]
            exact ⟨⟨by simp [notQuote, notBackslash], Bool.eq_false_iff.mpr onLine⟩, later⟩

end LexState

/-- A text between quotes is a string of that value exactly when no character of it needs an
escape. -/
theorem tokens?_inQuotes_iff (text : String) :
    tokens? ("'" ++ text ++ "'") = some [.string text] ↔ StandsVerbatim text := by
  have quote : "'".toList = ['\''] := rfl
  have opens : LexState.between.step '\'' = some ([], .quoted '\'' []) := rfl
  constructor
  · intro reads
    rw [tokens?, String.toList_append, String.toList_append, quote, List.singleton_append,
      List.cons_append, LexState.run_cons_of_silent opens] at reads
    refine LexState.standsVerbatim_of_run (reads.trans ?_)
    rw [List.reverse_nil, List.nil_append, String.ofList_toList]
  · intro stands
    have onLine : StaysOnLine text := fun character member => (stands character member).2
    have escaped : Naming.singleQuoted text = "'" ++ text ++ "'" := by
      rw [Naming.singleQuoted, Naming.escapeSingleQuoted, escapeChars_of_standsVerbatim stands,
        String.ofList_toList]
    have reads := LexState.run_singleQuoted onLine []
    rw [List.append_nil] at reads
    rw [tokens?, ← escaped, reads]
    rfl

end TypeScript
end OpenApiTypes
