import OpenApiTypes.Naming
import OpenApiTypes.Proofs.TypeScript.Grammar
import OpenApiTypes.Text.Blank

namespace OpenApiTypes

/-!
# Tokens of type expressions

Text is cut into tokens from left to right, each token as long as possible.  Blanks and
comments stand between tokens.  A string ends at its own quote and not on a later line,
and a numeral is not followed directly by a word.
-/

/-! ## Characters of words and numerals -/

namespace Naming

theorem startsIdentifier_iff (character : Char) :
    startsIdentifier character = true ↔
      (97 ≤ character.toNat ∧ character.toNat ≤ 122) ∨
        (65 ≤ character.toNat ∧ character.toNat ≤ 90) ∨
          character.toNat = 95 ∨ character.toNat = 36 := by
  have code : character.val.toNat = character.toNat := rfl
  simp only [startsIdentifier, isLetter, Bool.or_eq_true, Bool.and_eq_true,
    decide_eq_true_eq, beq_iff_eq, Char.le_def, UInt32.le_iff_toNat_le, ← Char.toNat_inj, code]
  simp only [Char.reduceVal, UInt32.reduceToNat, Char.reduceToNat, or_assoc]

theorem isDigit_iff (character : Char) :
    isDigit character = true ↔ 48 ≤ character.toNat ∧ character.toNat ≤ 57 := by
  have code : character.val.toNat = character.toNat := rfl
  simp only [isDigit, Bool.and_eq_true, decide_eq_true_eq, Char.le_def,
    UInt32.le_iff_toNat_le, code]
  simp only [Char.reduceVal, UInt32.reduceToNat]

theorem not_isBlank_of_continuesIdentifier {character : Char}
    (continues : continuesIdentifier character = true) :
    Text.isBlank character = false := by
  rw [continuesIdentifier, Bool.or_eq_true, startsIdentifier_iff, isDigit_iff] at continues
  simp only [Text.isBlank, Bool.or_eq_false_iff, Bool.and_eq_false_iff,
    decide_eq_false_iff_not, beq_eq_false_iff_ne]
  omega

theorem not_startsIdentifier_of_isDigit {character : Char}
    (digit : isDigit character = true) :
    startsIdentifier character = false := by
  rw [isDigit_iff] at digit
  rw [Bool.eq_false_iff, Ne, startsIdentifier_iff]
  omega

end Naming

namespace TypeScript

/-! ## Characters of strings -/

/-- The characters that end a line. -/
def isLineTerminator (character : Char) : Bool :=
  character == '\n' || character == '\r' || character == '\u2028' || character == '\u2029'

/-- The text has no end of a line in it. -/
def StaysOnLine (text : String) : Prop :=
  ∀ character ∈ text.toList, isLineTerminator character = false

instance (text : String) : Decidable (StaysOnLine text) :=
  List.decidableBAll (fun character => isLineTerminator character = false) text.toList

/-- The character that stands for itself and a backslash in front of it; escapes by number
and escaped line ends are left out. -/
def escaped? (character : Char) : Option Char :=
  match character with
  | 'n' => some '\n'
  | 'r' => some '\r'
  | 't' => some '\t'
  | 'b' => some '\x08'
  | 'f' => some '\x0c'
  | 'v' => some '\x0b'
  | 'u' => none
  | 'x' => none
  | _ =>
      if Naming.isDigit character || isLineTerminator character then none else some character

/-! ## Numerals -/

/-- How far a numeral has been read. -/
inductive NumeralPart where
  /-- A zero, which no other digit follows. -/
  | zero
  | whole
  | fraction
  /-- The letter in front of the exponent. -/
  | mark
  | sign
  | exponent
deriving DecidableEq

namespace NumeralPart

/-- What the first digit of a numeral begins. -/
def first (digit : Char) : NumeralPart :=
  if digit = '0' then .zero else .whole

/-- Where the next character of a numeral leads. -/
def next? (part : NumeralPart) (character : Char) : Option NumeralPart :=
  match part with
  | .zero =>
      if character = '.' then some .fraction
      else if character = 'e' || character = 'E' then some .mark
      else none
  | .whole =>
      if Naming.isDigit character then some .whole
      else if character = '.' then some .fraction
      else if character = 'e' || character = 'E' then some .mark
      else none
  | .fraction =>
      if Naming.isDigit character then some .fraction
      else if character = 'e' || character = 'E' then some .mark
      else none
  | .mark =>
      if Naming.isDigit character then some .exponent
      else if character = '+' || character = '-' then some .sign
      else none
  | .sign => if Naming.isDigit character then some .exponent else none
  | .exponent => if Naming.isDigit character then some .exponent else none

/-- Whether a numeral may end here. -/
def isComplete : NumeralPart -> Bool
  | .zero | .whole | .fraction | .exponent => true
  | .mark | .sign => false

/-- Where several characters lead. -/
def after? (part : NumeralPart) (characters : List Char) : Option NumeralPart :=
  characters.foldlM next? part

end NumeralPart

/-- How far characters read as a numeral from its first digit on. -/
def numeralPart? : List Char -> Option NumeralPart
  | [] => none
  | digit :: rest =>
      if Naming.isDigit digit then (NumeralPart.first digit).after? rest else none

/-- The text is a numeral without a sign. -/
def IsNumeral (text : String) : Prop :=
  ∃ part ∈ numeralPart? text.toList, part.isComplete

/-! ## The lexer -/

/-- What the lexer is in the middle of.  What has been read of a token is kept in reverse. -/
inductive LexState where
  | between
  | slash
  | comment (starred : Bool)
  | word (read : List Char)
  | quoted (quote : Char) (read : List Char)
  | escaping (quote : Char) (read : List Char)
  | numeral (part : NumeralPart) (read : List Char)
deriving DecidableEq

/-- The characters that are tokens of their own. -/
def symbols : List Char :=
  ['(', ')', '[', ']', '<', '>', '{', '}', '|', '&', ':', ';', ',', '.', '-']

/-- What has been read, in the order in which it stands in the text. -/
def readText (read : List Char) : String :=
  String.ofList read.reverse

namespace LexState

/-- The first character of something new. -/
def start (character : Char) : Option (List Token × LexState) :=
  if Text.isBlank character then some ([], .between)
  else if Naming.startsIdentifier character then some ([], .word [character])
  else if Naming.isDigit character then
    some ([], .numeral (NumeralPart.first character) [character])
  else if character = '\'' || character = '"' then some ([], .quoted character [])
  else if character = '/' then some ([], .slash)
  else if character ∈ symbols then some ([.symbol character], .between)
  else none

/-- The next character, with a token that ends in front of it. -/
def startAfter (token : Token) (character : Char) : Option (List Token × LexState) :=
  (start character).map (Prod.map (List.cons token) id)

/-- The tokens that a character completes, and what it leads to. -/
def step (state : LexState) (character : Char) : Option (List Token × LexState) :=
  match state with
  | .between => start character
  | .slash => if character = '*' then some ([], .comment false) else none
  | .comment starred =>
      if starred && character = '/' then some ([], .between)
      else some ([], .comment (character = '*'))
  | .word read =>
      if Naming.continuesIdentifier character then some ([], .word (character :: read))
      else startAfter (.word (readText read)) character
  | .quoted quote read =>
      if character = quote then some ([.string (readText read)], .between)
      else if character = '\\' then some ([], .escaping quote read)
      else if isLineTerminator character then none
      else some ([], .quoted quote (character :: read))
  | .escaping quote read =>
      (escaped? character).map (fun value => ([], .quoted quote (value :: read)))
  | .numeral part read =>
      match part.next? character with
      | some next => some ([], .numeral next (character :: read))
      | none =>
          if part.isComplete && !Naming.continuesIdentifier character then
            startAfter (.number (readText read)) character
          else none

/-- The tokens that the end of the text completes. -/
def finish : LexState -> Option (List Token)
  | .between => some []
  | .word read => some [.word (readText read)]
  | .numeral part read => if part.isComplete then some [.number (readText read)] else none
  | .slash | .comment _ | .quoted _ _ | .escaping _ _ => none

/-- The tokens of the characters. -/
def run (state : LexState) (characters : List Char) : Option (List Token) :=
  match characters with
  | [] => state.finish
  | character :: rest =>
      (state.step character).bind (fun (completed, next) =>
        (run next rest).map (completed ++ ·))

end LexState

/-- The tokens of a text. -/
def tokens? (text : String) : Option (List Token) :=
  LexState.between.run text.toList

/-! ## Single characters -/

namespace LexState

theorem run_cons_of_step {state next : LexState} {character : Char} {completed : List Token}
    (step : state.step character = some (completed, next)) (rest : List Char) :
    state.run (character :: rest) = (next.run rest).map (completed ++ ·) := by
  rw [run, step, Option.bind_some]

/-- A character that completes nothing only changes the state. -/
theorem run_cons_of_silent {state next : LexState} {character : Char}
    (step : state.step character = some ([], next)) (rest : List Char) :
    state.run (character :: rest) = next.run rest := by
  rw [run_cons_of_step step]
  exact Option.map_id'

/-- Where the next character begins something new, a finished token comes first. -/
theorem run_cons_of_startAfter {state : LexState} {character : Char} {token : Token}
    (step : state.step character = startAfter token character) (rest : List Char) :
    state.run (character :: rest) =
      (LexState.between.run (character :: rest)).map (token :: ·) := by
  rw [run, run, step, startAfter, LexState.step]
  cases start character with
  | none => rfl
  | some result =>
      rw [Option.map_some, Option.bind_some, Option.bind_some, Option.map_map]
      rfl

theorem run_symbol {character : Char} (member : character ∈ symbols) (rest : List Char) :
    LexState.between.run (character :: rest) =
      (LexState.between.run rest).map (.symbol character :: ·) := by
  have every : symbols.all
      (fun symbol => start symbol = some ([.symbol symbol], .between)) = true := by decide
  have step : LexState.between.step character = some ([.symbol character], .between) :=
    of_decide_eq_true (List.all_eq_true.mp every character member)
  exact run_cons_of_step step rest

theorem run_space (rest : List Char) :
    LexState.between.run (' ' :: rest) = LexState.between.run rest :=
  run_cons_of_silent rfl rest

/-! ## Words -/

/-- A word goes on to the first character that does not continue it. -/
theorem run_word (read characters : List Char) {rest : List Char}
    (continues : characters.all Naming.continuesIdentifier)
    (ends : ∀ character ∈ rest.head?, Naming.continuesIdentifier character = false) :
    (LexState.word read).run (characters ++ rest) =
      (LexState.between.run rest).map (.word (String.ofList (read.reverse ++ characters)) :: ·) := by
  induction characters generalizing read with
  | nil =>
      rw [List.append_nil]
      cases rest with
      | nil => rfl
      | cons character rest =>
          refine run_cons_of_startAfter ?_ rest
          rw [step, ends character rfl]
          rfl
  | cons character characters inductionHypothesis =>
      rw [List.all_cons, Bool.and_eq_true] at continues
      have silent : (LexState.word read).step character = some ([], .word (character :: read)) := by
        rw [step, continues.1]
        rfl
      rw [List.cons_append, run_cons_of_silent silent, inductionHypothesis _ continues.2,
        List.reverse_cons, List.append_assoc]
      rfl

/-- An identifier is one word. -/
theorem run_identifier {name : String} (identifier : Naming.isIdentifier name) {rest : List Char}
    (ends : ∀ character ∈ rest.head?, Naming.continuesIdentifier character = false) :
    LexState.between.run (name.toList ++ rest) =
      (LexState.between.run rest).map (.word name :: ·) := by
  rw [Naming.isIdentifier] at identifier
  cases characters : name.toList with
  | nil =>
      rw [characters] at identifier
      cases identifier
  | cons first others =>
      rw [characters, Naming.isIdentifierChars, Bool.and_eq_true] at identifier
      have continues : Naming.continuesIdentifier first = true := by
        rw [Naming.continuesIdentifier, identifier.1, Bool.true_or]
      have silent : LexState.between.step first = some ([], .word [first]) := by
        rw [step, start, Naming.not_isBlank_of_continuesIdentifier continues, identifier.1]
        rfl
      rw [List.cons_append, run_cons_of_silent silent, run_word [first] others identifier.2 ends,
        List.reverse_singleton, List.singleton_append, ← characters, String.ofList_toList]

/-! ## Strings and comments -/

/-- Escaped or not, one character of the value is read. -/
theorem run_escapeChar (read : List Char) {character : Char}
    (onLine : isLineTerminator character = false) (rest : List Char) :
    (LexState.quoted '\'' read).run (Naming.escapeChar character ++ rest) =
      (LexState.quoted '\'' (character :: read)).run rest := by
  rw [Naming.escapeChar]
  split
  next backslash =>
    subst backslash
    exact (run_cons_of_silent rfl _).trans (run_cons_of_silent rfl rest)
  next notBackslash =>
    split
    next quote =>
      subst quote
      exact (run_cons_of_silent rfl _).trans (run_cons_of_silent rfl rest)
    next notQuote =>
      refine run_cons_of_silent ?_ rest
      rw [step, if_neg notQuote, if_neg notBackslash, onLine]
      rfl

theorem run_quoted (read : List Char) {value : List Char}
    (onLine : ∀ character ∈ value, isLineTerminator character = false) (rest : List Char) :
    (LexState.quoted '\'' read).run (Naming.escapeChars value ++ '\'' :: rest) =
      (LexState.between.run rest).map (.string (String.ofList (read.reverse ++ value)) :: ·) := by
  induction value generalizing read with
  | nil =>
      have closes : (LexState.quoted '\'' read).step '\'' =
          some ([.string (readText read)], .between) := rfl
      rw [List.append_nil]
      exact run_cons_of_step closes rest
  | cons character value inductionHypothesis =>
      rw [List.forall_mem_cons] at onLine
      have escaped : Naming.escapeChars (character :: value) =
          Naming.escapeChar character ++ Naming.escapeChars value := List.flatMap_cons
      rw [escaped, List.append_assoc, run_escapeChar read onLine.1,
        inductionHypothesis _ onLine.2, List.reverse_cons, List.append_assoc]
      rfl

/-- A quoted text is one string and stands for the text. -/
theorem run_singleQuoted {value : String} (onLine : StaysOnLine value) (rest : List Char) :
    LexState.between.run ((Naming.singleQuoted value).toList ++ rest) =
      (LexState.between.run rest).map (.string value :: ·) := by
  have quote : "'".toList = ['\''] := rfl
  have opens : LexState.between.step '\'' = some ([], .quoted '\'' []) := rfl
  rw [Naming.singleQuoted, Naming.escapeSingleQuoted, String.toList_append, String.toList_append,
    quote, String.toList_ofList, List.append_assoc, List.append_assoc, List.singleton_append,
    List.singleton_append, run_cons_of_silent opens, run_quoted [] onLine, List.reverse_nil,
    List.nil_append, String.ofList_toList]

/-- Where characters lead that complete no token. -/
def passing? (state : LexState) (characters : List Char) : Option LexState :=
  characters.foldlM (fun state character =>
    match state.step character with
    | some ([], next) => some next
    | _ => none) state

theorem run_passing {state next : LexState} {characters : List Char}
    (passing : state.passing? characters = some next) (rest : List Char) :
    state.run (characters ++ rest) = next.run rest := by
  induction characters generalizing state with
  | nil =>
      cases passing
      rfl
  | cons character characters inductionHypothesis =>
      rw [passing?, List.foldlM_cons, Option.bind_eq_bind, Option.bind_eq_some_iff] at passing
      obtain ⟨following, silent, later⟩ := passing
      rw [List.cons_append, ← inductionHypothesis later]
      refine run_cons_of_silent ?_ _
      split at silent
      next step => rw [step, Option.some.inj silent]
      next => cases silent

end LexState

/-! ## Where tokens end -/

/-- The character carries neither a word nor a numeral on. -/
def isBoundary (character : Char) : Bool :=
  !Naming.continuesIdentifier character && character != '.'

/-- Tokens end in front of the characters. -/
def Bounded (characters : List Char) : Prop :=
  ∀ character ∈ characters.head?, isBoundary character = true

namespace NumeralPart

theorem after?_append (part : NumeralPart) (first second : List Char) :
    part.after? (first ++ second) = (part.after? first).bind (·.after? second) := by
  rw [after?, List.foldlM_append]
  rfl

theorem next?_of_isBoundary {part : NumeralPart} (complete : part.isComplete) {character : Char}
    (boundary : isBoundary character = true) : part.next? character = none := by
  rw [isBoundary, Bool.and_eq_true, Bool.not_eq_true', bne_iff_ne] at boundary
  obtain ⟨ends, notPoint⟩ := boundary
  have notMark : ¬(character = 'e' ∨ character = 'E') := by
    rintro (rfl | rfl) <;> cases ends
  have notDigit : Naming.isDigit character = false :=
    (Bool.or_eq_false_iff.mp ends).2
  cases part <;>
    simp only [next?, notDigit, notPoint, notMark, Bool.or_eq_true,
      decide_eq_true_eq, reduceCtorEq, if_false, isComplete] at complete ⊢

end NumeralPart

/-! ## Numbers -/

namespace LexState

theorem run_numeralPart {part last : NumeralPart} (read : List Char) {characters rest : List Char}
    (after : part.after? characters = some last) (complete : last.isComplete)
    (bounded : Bounded rest) :
    (LexState.numeral part read).run (characters ++ rest) =
      (LexState.between.run rest).map
        (.number (String.ofList (read.reverse ++ characters)) :: ·) := by
  induction characters generalizing part read with
  | nil =>
      cases after
      rw [List.append_nil]
      cases rest with
      | nil =>
          rw [List.append_nil, run, finish, if_pos complete]
          rfl
      | cons character rest =>
          have boundary := bounded character rfl
          refine run_cons_of_startAfter ?_ rest
          rw [step, NumeralPart.next?_of_isBoundary complete boundary]
          rw [isBoundary, Bool.and_eq_true] at boundary
          simp only [complete, boundary.1, Bool.and_self, if_true]
          rfl
  | cons character characters inductionHypothesis =>
      rw [NumeralPart.after?, List.foldlM_cons, Option.bind_eq_bind,
        Option.bind_eq_some_iff] at after
      obtain ⟨next, leads, later⟩ := after
      have silent : (LexState.numeral part read).step character =
          some ([], .numeral next (character :: read)) := by
        rw [step, leads]
      rw [List.cons_append, run_cons_of_silent silent, inductionHypothesis _ later,
        List.reverse_cons, List.append_assoc]
      rfl

/-- A numeral is one number. -/
theorem run_isNumeral {text : String} (numeral : IsNumeral text) {rest : List Char}
    (bounded : Bounded rest) :
    LexState.between.run (text.toList ++ rest) =
      (LexState.between.run rest).map (.number text :: ·) := by
  obtain ⟨last, reads, complete⟩ := numeral
  cases characters : text.toList with
  | nil =>
      rw [characters] at reads
      cases reads
  | cons digit others =>
      rw [characters, numeralPart?, Option.mem_def, Option.ite_none_right_eq_some] at reads
      obtain ⟨isDigit, after⟩ := reads
      have continues : Naming.continuesIdentifier digit = true := by
        rw [Naming.continuesIdentifier, isDigit, Bool.or_true]
      have silent : LexState.between.step digit =
          some ([], .numeral (NumeralPart.first digit) [digit]) := by
        rw [step, start, Naming.not_isBlank_of_continuesIdentifier continues,
          Naming.not_startsIdentifier_of_isDigit isDigit, isDigit]
        rfl
      rw [List.cons_append, run_cons_of_silent silent,
        run_numeralPart [digit] after complete bounded, List.reverse_singleton,
        List.singleton_append, ← characters, String.ofList_toList]

end LexState

example : tokens? "s.Base[] | 'it\\'s' | -1.5e-7" =
    some [.word "s", .symbol '.', .word "Base", .symbol '[', .symbol ']', .symbol '|',
      .string "it's", .symbol '|', .symbol '-', .number "1.5e-7"] := by
  decide

end TypeScript
end OpenApiTypes
