import OpenApiTypes.Yaml.Cursor

namespace OpenApiTypes
namespace Yaml

/-!
# The texts of scalars

A plain scalar ends where something else begins.  A quoted scalar ends at its quote.
The lines of both are folded.  A block scalar holds whole lines, which a literal keeps
and a folded one joins.
-/

/-! ## Plain scalars -/

/-- A character that ends or nests flow collections. -/
def isFlowMark (character : Char) : Bool :=
  character == ',' || character == '[' || character == ']' || character == '\x7b' ||
    character == '\x7d'

/-- The characters of a plain word, up to a gap or to what ends the scalar.  In a flow
collection a colon before a flow mark is refused. -/
def plainWord? (inFlow : Bool) : List Char -> Option (List Char)
  | [] => some []
  | character :: rest =>
      if isGap character then some []
      else if inFlow && character == ':' &&
          rest.head?.any (fun next => isFlowMark next || next == '?') then none
      else if (character == ':' && startsWithGap rest) || (inFlow && isFlowMark character) then
        some []
      else (plainWord? inFlow rest).map (fun word => character :: word)

/-- What reading a plain scalar gives. -/
structure PlainScalar where
  text : List Char
  /-- A new line begins after the scalar. -/
  broken : Bool
  cursor : Cursor

/-- Read a plain scalar from word to word.  `reversed` holds the text so far back to
front, and `gap` what stands before the cursor. -/
def readPlain (indent : Int) (inFlow : Bool) :
    Nat -> List Char -> Gap -> Cursor -> Option PlainScalar
  | 0, _, _, _ => none
  | fuel + 1, reversed, gap, cursor =>
      let done : PlainScalar := ⟨reversed.reverse, gap.broken, cursor⟩
      if cursor.atDocumentMark || cursor.sees '#' then some done
      else
        match plainWord? inFlow cursor.rest with
        | none => none
        | some [] => some done
        | some word =>
            let text := word.reverse ++ gap.folded.reverse ++ reversed
            let after := cursor.advance word.length
            match readGap indent (after.rest.length + 1) {} after with
            | none => none
            | some (next, last) =>
                if last.index = after.index then some ⟨text.reverse, false, after⟩
                else if !inFlow && (last.column : Int) < indent then
                  some ⟨text.reverse, next.broken, last⟩
                else readPlain indent inFlow fuel text next last

/-! ## Quoted scalars -/

/-- The value of a hexadecimal digit. -/
def hexDigit? (character : Char) : Option Nat :=
  let code := character.toNat
  if 48 <= code && code <= 57 then some (code - 48)
  else if 65 <= code && code <= 70 then some (code - 55)
  else if 97 <= code && code <= 102 then some (code - 87)
  else none

/-- The value of hexadecimal digits. -/
def hexNumber? : List Char -> Nat -> Option Nat
  | [], value => some value
  | character :: rest, value =>
      match hexDigit? character with
      | some digit => hexNumber? rest (16 * value + digit)
      | none => none

/-- The character of a code point that is not half of a surrogate pair. -/
def scalarValue? (value : Nat) : Option Char :=
  if value.isValidChar then some (Char.ofNat value) else none

/-- The character that an escape of one letter stands for. -/
def simpleEscape? (letter : Char) : Option Char :=
  match letter with
  | '0' => some (Char.ofNat 0)
  | 'a' => some (Char.ofNat 7)
  | 'b' => some (Char.ofNat 8)
  | 't' => some '\t'
  | '\t' => some '\t'
  | 'n' => some '\n'
  | 'v' => some (Char.ofNat 11)
  | 'f' => some (Char.ofNat 12)
  | 'r' => some '\r'
  | 'e' => some (Char.ofNat 27)
  | ' ' => some ' '
  | '"' => some '"'
  | '/' => some '/'
  | '\\' => some '\\'
  | 'N' => some '\u0085'
  | '_' => some '\u00a0'
  | 'L' => some '\u2028'
  | 'P' => some '\u2029'
  | _ => none

/-- The number of digits of an escape that gives a code point. -/
def escapeDigits? (letter : Char) : Option Nat :=
  match letter with
  | 'x' => some 2
  | 'u' => some 4
  | 'U' => some 8
  | _ => none

/-- Read an escape whose backslash has been read: its character and its length. -/
def readEscape? : List Char -> Option (Char × Nat)
  | [] => none
  | letter :: rest =>
      match escapeDigits? letter with
      | none => (simpleEscape? letter).map (fun character => (character, 1))
      | some count =>
          if (rest.take count).length < count then none
          else
            match hexNumber? (rest.take count) 0 with
            | none => none
            | some value => (scalarValue? value).map (fun character => (character, count + 1))

/-- Why a word of a quoted scalar ends. -/
inductive WordEnd where
  /-- At a gap, at the quote or at the end of the text. -/
  | outside
  /-- At a break that a backslash hides. -/
  | hiddenBreak

/-- Read a word of a quoted scalar. -/
def readQuotedWord (quote : Char) :
    Nat -> List Char -> Cursor -> Option (List Char × WordEnd × Cursor)
  | 0, _, _ => none
  | fuel + 1, reversed, cursor =>
      match cursor.rest with
      | [] => some (reversed, .outside, cursor)
      | character :: rest =>
          if isGap character then some (reversed, .outside, cursor)
          else if quote == '\'' && character == quote && rest.head? == some quote then
            readQuotedWord quote fuel (quote :: reversed) (cursor.advance 2)
          else if character == quote then some (reversed, .outside, cursor)
          else if quote == '"' && character == '\\' then
            if rest.head?.any isBreak then
              some (reversed, .hiddenBreak, (cursor.advance 1).nextLine)
            else
              match readEscape? rest with
              | none => none
              | some (escaped, length) =>
                  readQuotedWord quote fuel (escaped :: reversed) (cursor.advance (length + 1))
          else readQuotedWord quote fuel (character :: reversed) (cursor.advance 1)

/-- Read a quoted scalar whose opening quote has been read. -/
def readQuoted (quote : Char) : Nat -> List Char -> Cursor -> Option (List Char × Cursor)
  | 0, _, _ => none
  | fuel + 1, reversed, cursor =>
      if cursor.atDocumentMark || cursor.rest.isEmpty then none
      else
        match readQuotedWord quote (cursor.rest.length + 1) reversed cursor with
        | none => none
        | some (text, ending, after) =>
            if after.sees quote then some (text.reverse, after.advance 1)
            else
              let start : Gap := match ending with
                | .outside => {}
                | .hiddenBreak => { broken := true }
              match readGap 0 (after.rest.length + 1) start after with
              | none => none
              | some (gap, last) =>
                  readQuoted quote fuel (gap.folded.reverse ++ text) last

/-! ## Block scalars -/

/-- What becomes of the breaks at the end of a block scalar. -/
inductive Chomping where
  | strip
  | clip
  | keep
deriving DecidableEq

/-- The sign that tells what becomes of the last breaks. -/
def chompingSign? (character : Char) : Option Chomping :=
  match character with
  | '+' => some .keep
  | '-' => some .strip
  | _ => none

/-- The digit that tells the indentation. -/
def indentDigit? (character : Char) : Option Nat :=
  if '1' <= character && character <= '9' then some (character.toNat - 48) else none

/-- Read the signs after the indicator of a block scalar: a sign and a digit, in either
order and each at most once.  A zero is left unread and then refused. -/
def blockHeader (characters : List Char) : Chomping × Option Nat × Nat :=
  match characters with
  | [] => (.clip, none, 0)
  | first :: rest =>
      match chompingSign? first with
      | some chomping =>
          match rest.head?.bind indentDigit? with
          | some indent => (chomping, some indent, 2)
          | none => (chomping, none, 1)
      | none =>
          match indentDigit? first with
          | none => (.clip, none, 0)
          | some indent =>
              match rest.head?.bind chompingSign? with
              | some chomping => (chomping, some indent, 2)
              | none => (.clip, some indent, 1)

/-- Skip indentation and blank lines.  Without a known indentation every space belongs
to it.  Gives the breaks and the greatest column reached. -/
def skipBlankLines (indent : Option Nat) :
    Nat -> List Char -> Nat -> Cursor -> Option (List Char × Nat × Cursor)
  | 0, _, _, _ => none
  | fuel + 1, breaks, greatest, cursor =>
      let spaces := (cursor.rest.takeWhile (fun character => character == ' ')).length
      let indented := match indent with
        | none => cursor.advance spaces
        | some column => cursor.advance (min spaces (column - cursor.column))
      let reached := max greatest indented.column
      let short := match indent with
        | none => true
        | some column => indented.column < column
      if short && indented.sees '\t' then none
      else if indented.rest.head?.any isBreak then
        skipBlankLines indent fuel (breaks ++ indented.breakText) reached indented.nextLine
      else some (breaks, reached, indented)

/-- What has been read of a block scalar. -/
structure BlockText where
  /-- The text before the last break, back to front. -/
  reversed : List Char
  /-- What the break after the last line is read as. -/
  lineBreak : List Char
  /-- The breaks of blank lines after it. -/
  blankLines : List Char
  /-- The last line begins with a blank. -/
  indented : Bool
  cursor : Cursor

/-- Read the lines of a block scalar at an indentation. -/
def readBlockLines (folding : Bool) (indent : Nat) : Nat -> BlockText -> Option BlockText
  | 0, _ => none
  | fuel + 1, block =>
      let cursor := block.cursor
      match cursor.rest with
      | [] => some block
      | first :: _ =>
          if cursor.column != indent then some block
          else
            let blank := isBlank first
            let joined :=
              if folding && block.lineBreak.head? == some '\n' && !block.indented && !blank then
                if block.blankLines.isEmpty then [' '] else block.blankLines
              else block.lineBreak ++ block.blankLines
            let ended := cursor.toLineEnd
            let line := cursor.rest.takeWhile (fun character => !isBreak character)
            let text := line.reverse ++ joined.reverse ++ block.reversed
            let next := ended.nextLine
            match skipBlankLines (some indent) (next.rest.length + 1) [] 0 next with
            | none => none
            | some (breaks, _, after) =>
                readBlockLines folding indent fuel
                  ⟨text, ended.breakText, breaks, blank, after⟩

/-- Read a block scalar whose indicator has been read.  `parent` is the indentation of
the collection around it. -/
def readBlock (folding : Bool) (parent : Int) (cursor : Cursor) :
    Option (List Char × Cursor) := do
  let (chomping, given, length) := blockHeader cursor.rest
  let body <- (cursor.advance length).finishLine?
  let known := given.map (fun indent => (max parent 0).toNat + indent)
  let (breaks, reached, after) <- skipBlankLines known (body.rest.length + 1) [] 0 body
  let indent := known.getD (max reached (max (parent + 1).toNat 1))
  let block <- readBlockLines folding indent (after.rest.length + 2)
    ⟨[], [], breaks, false, after⟩
  let tail := match chomping with
    | .strip => []
    | .clip => block.lineBreak
    | .keep => block.lineBreak ++ block.blankLines
  pure (block.reversed.reverse ++ tail, block.cursor)

end Yaml
end OpenApiTypes
