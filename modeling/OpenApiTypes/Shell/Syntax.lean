import OpenApiTypes.Text.Lines

namespace OpenApiTypes
namespace Shell

/-!
# Command lines

A command line is a sequence of pipelines, each of which may depend on how the one
before it ended.  A pipeline joins simple commands, and a simple command is a list of
words with redirections.  Words are made of text and of the few parameters that are
known before a command runs.
-/

/-! ## Syntax -/

/-- A piece of a word. -/
inductive Piece where
  | text (value : String)
  /-- The number of the process that reads the line. -/
  | process
  /-- The status of the last command. -/
  | status
deriving DecidableEq, Inhabited

/-- A word. -/
abbrev Word := List Piece

/-- What a redirection does with a stream. -/
inductive Redirecting where
  | read
  | write
  | append
  | copy
deriving DecidableEq, Inhabited

/-- A redirection of a stream; the streams are numbered. -/
structure Redirection where
  stream : Nat
  mode : Redirecting
  target : Word
deriving DecidableEq, Inhabited

/-- A simple command. -/
structure Simple where
  words : List Word := []
  redirections : List Redirection := []
deriving DecidableEq, Inhabited

/-- When a pipeline runs. -/
inductive Condition where
  | always
  | afterSuccess
  | afterFailure
deriving DecidableEq, Inhabited

/-- A pipeline of a line. -/
structure Step where
  condition : Condition
  pipeline : List Simple
deriving DecidableEq, Inhabited

/-! ## Tokens -/

/-- A token of a line. -/
inductive Token where
  | word (pieces : Word)
  | redirect (stream : Nat) (mode : Redirecting)
  | next
  | both
  | otherwise
  | pipe
deriving DecidableEq, Inhabited

/-- How characters are quoted. -/
inductive Quoting where
  | bare
  | single
  | double
deriving DecidableEq, Inhabited

/-- A word that is being read, back to front. -/
structure Draft where
  pieces : Word := []
  characters : List Char := []
  /-- A quote or a character has been read, so there is a word even if it is empty. -/
  started : Bool := false
deriving Inhabited

namespace Draft

/-- Add a character. -/
def push (draft : Draft) (character : Char) : Draft :=
  { draft with characters := character :: draft.characters, started := true }

/-- The pieces read so far, back to front. -/
def closed (draft : Draft) : Word :=
  if draft.characters.isEmpty then draft.pieces
  else .text (String.ofList draft.characters.reverse) :: draft.pieces

/-- Add a parameter. -/
def pushPiece (draft : Draft) (piece : Piece) : Draft :=
  ⟨piece :: draft.closed, [], true⟩

/-- Begin a word. -/
def start (draft : Draft) : Draft :=
  { draft with started := true }

/-- The token of the word, when there is one. -/
def token (draft : Draft) : List Token :=
  if draft.started then [.word draft.closed.reverse] else []

/-- A number directly before a redirection names its stream. -/
def redirect (draft : Draft) (standard : Nat) (mode : Redirecting) : List Token :=
  if draft.pieces.isEmpty && !draft.characters.isEmpty && draft.characters.all Char.isDigit then
    [.redirect ((String.ofList draft.characters.reverse).toNat?.getD standard) mode]
  else draft.token ++ [.redirect standard mode]

end Draft

/-- Whether a backslash between double quotes hides the character after it. -/
def isEscapable (character : Char) : Bool :=
  character == '$' || character == '"' || character == '\\' || character.toNat == 96

/-- The tokens of a line; none when a quote is not closed or a form is not known. -/
def tokensFrom : Quoting -> Draft -> List Char -> Option (List Token)
  | .bare, draft, [] => some draft.token
  | _, _, [] => none
  | .single, draft, character :: rest =>
      if character = '\'' then tokensFrom .bare draft rest
      else tokensFrom .single (draft.push character) rest
  | quoting, draft, '$' :: '$' :: rest => tokensFrom quoting (draft.pushPiece .process) rest
  | quoting, draft, '$' :: '?' :: rest => tokensFrom quoting (draft.pushPiece .status) rest
  | .double, draft, '"' :: rest => tokensFrom .bare draft rest
  | .double, draft, '\\' :: character :: rest =>
      if isEscapable character then tokensFrom .double (draft.push character) rest
      else tokensFrom .double ((draft.push '\\').push character) rest
  | .double, draft, character :: rest => tokensFrom .double (draft.push character) rest
  | .bare, draft, '\'' :: rest => tokensFrom .single draft.start rest
  | .bare, draft, '"' :: rest => tokensFrom .double draft.start rest
  | .bare, draft, '\\' :: '\n' :: rest => tokensFrom .bare draft rest
  | .bare, draft, '\\' :: character :: rest => tokensFrom .bare (draft.push character) rest
  | .bare, draft, '&' :: '&' :: rest =>
      (tokensFrom .bare {} rest).map (fun tokens => draft.token ++ .both :: tokens)
  | .bare, draft, '|' :: '|' :: rest =>
      (tokensFrom .bare {} rest).map (fun tokens => draft.token ++ .otherwise :: tokens)
  | .bare, draft, '>' :: '>' :: rest =>
      (tokensFrom .bare {} rest).map (fun tokens => draft.redirect 1 .append ++ tokens)
  | .bare, draft, '>' :: '&' :: rest =>
      (tokensFrom .bare {} rest).map (fun tokens => draft.redirect 1 .copy ++ tokens)
  | .bare, draft, character :: rest =>
      match character with
      | ' ' => (tokensFrom .bare {} rest).map (fun tokens => draft.token ++ tokens)
      | '\t' => (tokensFrom .bare {} rest).map (fun tokens => draft.token ++ tokens)
      | ';' => (tokensFrom .bare {} rest).map (fun tokens => draft.token ++ .next :: tokens)
      | '\n' => (tokensFrom .bare {} rest).map (fun tokens => draft.token ++ .next :: tokens)
      | '|' => (tokensFrom .bare {} rest).map (fun tokens => draft.token ++ .pipe :: tokens)
      | '>' => (tokensFrom .bare {} rest).map (fun tokens => draft.redirect 1 .write ++ tokens)
      | '<' => (tokensFrom .bare {} rest).map (fun tokens => draft.redirect 0 .read ++ tokens)
      | '&' => none
      | '(' => none
      | ')' => none
      | other => tokensFrom .bare (draft.push other) rest

/-! ## Steps -/

/-- A line that is being read: the condition of the current pipeline, its commands back
to front, and the current command. -/
structure OpenStep where
  condition : Condition := .always
  commands : List Simple := []
  current : Simple := {}

namespace OpenStep

/-- Whether nothing of a pipeline has been read yet. -/
def isBlank (step : OpenStep) : Bool :=
  step.commands.isEmpty && step.current == {}

/-- End the current command. -/
def closeCommand? (step : OpenStep) : Option (List Simple) :=
  if step.current = {} then none else some (step.current :: step.commands)

/-- End the current pipeline. -/
def close? (step : OpenStep) : Option Step :=
  step.closeCommand?.map (fun commands => ⟨step.condition, commands.reverse⟩)

end OpenStep

/-- The steps of a line. -/
def stepsFrom (step : OpenStep) : List Token -> Option (List Step)
  | [] =>
      if step.isBlank && step.condition == .always then some []
      else step.close?.map (fun closed => [closed])
  | .word pieces :: rest =>
      let current := { step.current with words := step.current.words ++ [pieces] }
      stepsFrom { step with current } rest
  | .redirect stream mode :: .word target :: rest =>
      let redirections := step.current.redirections ++ [⟨stream, mode, target⟩]
      stepsFrom { step with current := { step.current with redirections } } rest
  | .redirect _ _ :: _ => none
  | .pipe :: rest => do
      let commands <- step.closeCommand?
      stepsFrom { step with commands, current := {} } rest
  | .next :: rest =>
      if step.isBlank && step.condition == .always then stepsFrom {} rest
      else do
        let closed <- step.close?
        let others <- stepsFrom {} rest
        some (closed :: others)
  | .both :: rest => do
      let closed <- step.close?
      let others <- stepsFrom { condition := .afterSuccess } rest
      some (closed :: others)
  | .otherwise :: rest => do
      let closed <- step.close?
      let others <- stepsFrom { condition := .afterFailure } rest
      some (closed :: others)

/-- Read a command line. -/
def parse? (line : String) : Option (List Step) :=
  (tokensFrom .bare {} line.toList).bind (stepsFrom {})

end Shell
end OpenApiTypes
