namespace OpenApiTypes
namespace Toml

/-!
# Strings and keys of TOML text

A reader takes characters and gives what it read with the characters that are left, or
nothing.  A carriage return counts only together with a line feed, and other control
characters are refused everywhere but the tab.
-/

/-- A space or a tab. -/
def isBlank (character : Char) : Bool :=
  character == ' ' || character == '\t'

/-- Skip blanks. -/
def skipBlanks (characters : List Char) : List Char :=
  characters.dropWhile isBlank

/-- Read the end of a line. -/
def newline? : List Char -> Option (List Char)
  | '\n' :: rest => some rest
  | '\r' :: '\n' :: rest => some rest
  | _ => none

/-- A character of a comment, and of strings apart from their quotes and escapes. -/
def isPlain (character : Char) : Bool :=
  character == '\t' || (' ' <= character && character.toNat != 127)

/-- Skip a comment up to the end of its line. -/
def skipComment (characters : List Char) : List Char :=
  match characters with
  | '#' :: rest => rest.dropWhile isPlain
  | _ => characters

/-- Read the rest of a line: blanks, a comment, and the end of the line or the text. -/
def lineEnd? (characters : List Char) : Option (List Char) :=
  match skipComment (skipBlanks characters) with
  | [] => some []
  | rest => newline? rest

/-- Skip blanks, comments and line ends. -/
def skipLines : Nat -> List Char -> List Char
  | 0, characters => characters
  | fuel + 1, characters =>
      let rest := skipComment (skipBlanks characters)
      match newline? rest with
      | some next => skipLines fuel next
      | none => rest

/-! ## Strings -/

/-- The value of a hexadecimal digit. -/
def hexDigit? (character : Char) : Option Nat :=
  let code := character.toNat
  if 48 <= code && code <= 57 then some (code - 48)
  else if 65 <= code && code <= 70 then some (code - 55)
  else if 97 <= code && code <= 102 then some (code - 87)
  else none

/-- Read a code point of so many hexadecimal digits. -/
def codePoint? : Nat -> Nat -> List Char -> Option (Char × List Char)
  | 0, value, rest => if value.isValidChar then some (Char.ofNat value, rest) else none
  | count + 1, value, character :: rest => do
      codePoint? count (16 * value + (<- hexDigit? character)) rest
  | _ + 1, _, [] => none

/-- Read an escape whose backslash has been read. -/
def escape? : List Char -> Option (Char × List Char)
  | 'b' :: rest => some (Char.ofNat 8, rest)
  | 't' :: rest => some ('\t', rest)
  | 'n' :: rest => some ('\n', rest)
  | 'f' :: rest => some (Char.ofNat 12, rest)
  | 'r' :: rest => some ('\r', rest)
  | '"' :: rest => some ('"', rest)
  | '\\' :: rest => some ('\\', rest)
  | 'u' :: rest => codePoint? 4 0 rest
  | 'U' :: rest => codePoint? 8 0 rest
  | _ => none

/-- Read a string of one line whose opening quote has been read.  Only a string between
double quotes has escapes. -/
def line? (quote : Char) : Nat -> List Char -> List Char -> Option (String × List Char)
  | 0, _, _ => none
  | _, _, [] => none
  | fuel + 1, reversed, character :: rest =>
      if character == quote then some (String.ofList reversed.reverse, rest)
      else if quote == '"' && character == '\\' then
        match escape? rest with
        | some (escaped, after) => line? quote fuel (escaped :: reversed) after
        | none => none
      else if isPlain character then line? quote fuel (character :: reversed) rest
      else none

/-- Skip blanks and line ends. -/
def skipBreaks : Nat -> List Char -> List Char
  | 0, characters => characters
  | fuel + 1, characters =>
      match newline? (skipBlanks characters) with
      | some rest => skipBreaks fuel rest
      | none => skipBlanks characters

/-- Read the end of a line that a backslash hides, with the blanks and line ends that
follow it. -/
def hiddenBreak? (characters : List Char) : Option (List Char) :=
  (newline? (skipBlanks characters)).map (fun rest => skipBreaks (rest.length + 1) rest)

/-- Read a string of several lines whose opening quotes have been read.  Three quotes
close it, and up to two more before them belong to the text. -/
def lines? (quote : Char) : Nat -> List Char -> List Char -> Option (String × List Char)
  | 0, _, _ => none
  | _, _, [] => none
  | fuel + 1, reversed, character :: rest =>
      if character == quote then
        let run := ((character :: rest).takeWhile (fun other => other == quote)).length
        let taken := min run 5
        let kept := if run < 3 then run else taken - 3
        let text := List.replicate kept quote ++ reversed
        let after := (character :: rest).drop taken
        if run < 3 then lines? quote fuel text after
        else some (String.ofList text.reverse, after)
      else if quote == '"' && character == '\\' then
        match hiddenBreak? rest with
        | some after => lines? quote fuel reversed after
        | none =>
            match escape? rest with
            | some (escaped, after) => lines? quote fuel (escaped :: reversed) after
            | none => none
      else
        match newline? (character :: rest) with
        | some after => lines? quote fuel ('\n' :: reversed) after
        | none =>
            if isPlain character then lines? quote fuel (character :: reversed) rest
            else none

/-- Read a string.  A line end directly after three quotes is not part of the text. -/
def string? (characters : List Char) : Option (String × List Char) :=
  match characters with
  | first :: second :: third :: rest =>
      if (first == '"' || first == '\'') && second == first && third == first then
        let body := (newline? rest).getD rest
        lines? first (body.length + 1) [] body
      else if first == '"' || first == '\'' then
        line? first characters.length [] (second :: third :: rest)
      else none
  | first :: rest =>
      if first == '"' || first == '\'' then line? first characters.length [] rest else none
  | [] => none

/-! ## Keys -/

/-- A character of a key without quotes. -/
def isKeyChar (character : Char) : Bool :=
  character.isAlphanum || character == '_' || character == '-'

/-- Read one part of a key. -/
def keyPart? (characters : List Char) : Option (String × List Char) :=
  match characters with
  | [] => none
  | first :: rest =>
      if first == '"' || first == '\'' then line? first characters.length [] rest
      else
        match characters.takeWhile isKeyChar with
        | [] => none
        | name => some (String.ofList name, characters.dropWhile isKeyChar)

/-- Read the parts of a key, with blanks around their dots. -/
def keyFrom? : Nat -> List Char -> Option (List String × List Char)
  | 0, _ => none
  | fuel + 1, characters => do
      let (part, after) <- keyPart? (skipBlanks characters)
      match skipBlanks after with
      | '.' :: rest => do
          let (parts, left) <- keyFrom? fuel rest
          pure (part :: parts, left)
      | _ => pure ([part], skipBlanks after)

/-- How many parts a key may have, and how deep values may be nested, less one. -/
def depthLimit : Nat := 80

/-- Read a key. -/
def key? (characters : List Char) : Option (List String × List Char) := do
  let (parts, rest) <- keyFrom? (characters.length + 1) characters
  if parts.length < depthLimit then some (parts, rest) else none

end Toml
end OpenApiTypes
