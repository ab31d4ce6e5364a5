import OpenApiTypes.Yaml.ScalarText
import OpenApiTypes.Yaml.Token

namespace OpenApiTypes
namespace Yaml

/-!
# From text to tokens

Whether a scalar is a key is known only when its colon has been read.  So the place
where a key may have begun is remembered, and the tokens that announce the key are put
there afterwards.  A place is forgotten when its line ends, or after 1024 characters;
where indentation demands a key, forgetting it is an error.
-/

/-- A place where a key may have begun. -/
structure KeyPlace where
  /-- The number of tokens before the key. -/
  position : Nat
  /-- Indentation demands a key here. -/
  required : Bool
  index : Nat
  line : Nat
  column : Nat

/-- The state of reading tokens. -/
structure Lexer where
  cursor : Cursor
  /-- The tokens so far, last one first. -/
  reversed : List Token := []
  /-- The number of tokens so far. -/
  count : Nat := 0
  /-- The column of the innermost block collection; -1 outside. -/
  indent : Int := -1
  /-- The columns of the block collections around it. -/
  outer : List Int := []
  /-- How many flow collections are open. -/
  flowDepth : Nat := 0
  /-- A key may begin here. -/
  keyAllowed : Bool := true
  /-- For each open flow collection, and for the block around them, where a key may have
  begun; innermost first. -/
  places : List (Option KeyPlace) := [none]

namespace Lexer

/-- Whether a flow collection is open. -/
def inFlow (lexer : Lexer) : Bool :=
  lexer.flowDepth != 0

/-- Add a token. -/
def emit (token : Token) (lexer : Lexer) : Lexer :=
  { lexer with reversed := token :: lexer.reversed, count := lexer.count + 1 }

/-- Add a token and move over its characters. -/
def emitOver (token : Token) (length : Nat) (lexer : Lexer) : Lexer :=
  { lexer.emit token with cursor := lexer.cursor.advance length }

/-- Put a token at an earlier place. -/
def emitAt (position : Nat) (token : Token) (lexer : Lexer) : Lexer :=
  let later := lexer.count - position
  { lexer with
    reversed := lexer.reversed.take later ++ token :: lexer.reversed.drop later
    count := lexer.count + 1 }

/-- Allow a key at the next token, or forbid it. -/
def allowKey (allowed : Bool) (lexer : Lexer) : Lexer :=
  { lexer with keyAllowed := allowed }

/-! ## Places of keys -/

/-- Forget where a key may have begun in the innermost collection. -/
def dropKey (lexer : Lexer) : Option Lexer :=
  match lexer.places with
  | some place :: rest =>
      if place.required then none else some { lexer with places := none :: rest }
  | _ => some lexer

/-- Remember that a key may begin here. -/
def saveKey (lexer : Lexer) : Option Lexer :=
  if lexer.keyAllowed then do
    let cleared <- lexer.dropKey
    let cursor := lexer.cursor
    let place : KeyPlace :=
      ⟨lexer.count, !lexer.inFlow && lexer.indent == (cursor.column : Int), cursor.index,
        cursor.line, cursor.column⟩
    pure { cleared with places := some place :: cleared.places.drop 1 }
  else some lexer

/-- Whether a place has been left too far behind. -/
def isStale (cursor : Cursor) (place : KeyPlace) : Bool :=
  place.line < cursor.line || place.index + 1024 < cursor.index

/-- Forget the places that have been left too far behind. -/
def dropStale (lexer : Lexer) : Option Lexer :=
  let stale (place : Option KeyPlace) : Bool := place.any (isStale lexer.cursor)
  if lexer.places.any (fun place => stale place && place.any KeyPlace.required) then none
  else
    some { lexer with
      places := lexer.places.map (fun place => if stale place then none else place) }

/-! ## Indentation -/

/-- Open a block collection when the column is deeper than the innermost one. -/
def openBlock (column : Nat) (position : Nat) (start : Token) (lexer : Lexer) : Lexer :=
  if lexer.inFlow then lexer
  else if lexer.indent < (column : Int) then
    { lexer.emitAt position start with
      outer := lexer.indent :: lexer.outer
      indent := (column : Int) }
  else lexer

/-- Close the block collections that are deeper than a column. -/
def closeBlocks (column : Int) : List Int -> Lexer -> Lexer
  | [], lexer => lexer
  | outer :: rest, lexer =>
      if lexer.indent > column then
        closeBlocks column rest { lexer.emit .blockEnd with indent := outer, outer := rest }
      else lexer

/-- Close the block collections that are deeper than a column, unless a flow collection
is open. -/
def unindent (column : Int) (lexer : Lexer) : Lexer :=
  if lexer.inFlow then lexer else closeBlocks column lexer.outer lexer

/-! ## Gaps between tokens -/

/-- Move to the next token.  A new line of a block may begin a key; tabs do not indent,
so they are skipped only where no key may begin. -/
def toNextToken : Nat -> Lexer -> Lexer
  | 0, lexer => lexer
  | fuel + 1, lexer =>
      let start := lexer.cursor
      let marked :=
        if start.column == 0 && start.sees byteOrderMark then start.advance 1 else start
      let skipsTabs := lexer.inFlow || !lexer.keyAllowed
      let spaced := marked.advanceWhile (fun character =>
        character == ' ' || (skipsTabs && character == '\t'))
      let ended := if spaced.sees '#' then spaced.toLineEnd else spaced
      if ended.rest.head?.any isBreak then
        toNextToken fuel { lexer with
          cursor := ended.nextLine
          keyAllowed := lexer.keyAllowed || !lexer.inFlow }
      else { lexer with cursor := ended }

/-! ## Anchors and tags -/

/-- A character of anchors and tag handles. -/
def isNameChar (character : Char) : Bool :=
  character.isAlphanum || character == '_' || character == '-'

/-- Whether an anchor may end before a text. -/
def endsAnchor : List Char -> Bool
  | [] => true
  | character :: _ => isGap character || "?:,]\x7d%@`".toList.contains character

/-- Read an anchor or an alias whose indicator stands here. -/
def readAnchor (make : String -> Token) (lexer : Lexer) : Option Lexer :=
  let name := (lexer.cursor.rest.drop 1).takeWhile isNameChar
  let after := lexer.cursor.advance (name.length + 1)
  if name.isEmpty || !endsAnchor after.rest then none
  else some { lexer.emit (make (String.ofList name)) with cursor := after }

/-- A character of a tag; inside angle brackets some more are allowed. -/
def isUriChar (bracketed : Bool) (character : Char) : Bool :=
  isNameChar character || ";/?:@&=+$.!~*'()".toList.contains character ||
    (bracketed && ",[]".toList.contains character)

/-- The octet of a percent sequence. -/
def percentOctet? : List Char -> Option Nat
  | '%' :: high :: low :: _ => do
      let first <- hexDigit? high
      let second <- hexDigit? low
      pure (16 * first + second)
  | _ => none

/-- The number of continuation octets after a first octet, with its bits. -/
def openingOctet? (octet : Nat) : Option (Nat × Nat) :=
  if octet < 0x80 then some (0, octet)
  else if octet / 32 = 6 then some (1, octet % 32)
  else if octet / 16 = 14 then some (2, octet % 16)
  else if octet / 8 = 30 then some (3, octet % 8)
  else none

/-- Read the percent sequences of continuation octets. -/
def continuation? : Nat -> Nat -> List Char -> Option (Nat × List Char)
  | 0, value, rest => some (value, rest)
  | count + 1, value, rest => do
      let octet <- percentOctet? rest
      if octet / 64 = 2 then continuation? count (64 * value + octet % 64) (rest.drop 3)
      else none

/-- Read the characters of a tag, with percent sequences.  Gives them back to front. -/
def readUri (bracketed : Bool) : Nat -> List Char -> List Char -> Option (List Char × List Char)
  | 0, reversed, rest => some (reversed, rest)
  | _, reversed, [] => some (reversed, [])
  | fuel + 1, reversed, character :: rest =>
      if character == '%' then do
        let octet <- percentOctet? (character :: rest)
        let (count, bits) <- openingOctet? octet
        let (value, after) <- continuation? count bits ((character :: rest).drop 3)
        readUri bracketed fuel (Char.ofNat value :: reversed) after
      else if isUriChar bracketed character then
        readUri bracketed fuel (character :: reversed) rest
      else some (reversed, character :: rest)

/-- Read a tag handle: an exclamation mark, a name, and perhaps another mark. -/
def readHandle : List Char -> Option (List Char × List Char)
  | '!' :: rest =>
      let name := rest.takeWhile isNameChar
      match rest.dropWhile isNameChar with
      | '!' :: after => some ('!' :: name ++ ['!'], after)
      | after => some ('!' :: name, after)
  | _ => none

/-- Move a cursor to a later text of its line. -/
def moveTo (cursor : Cursor) (rest : List Char) : Cursor :=
  cursor.advance (cursor.rest.length - rest.length)

/-- Read the handle and the suffix of a tag. -/
def readTagParts (characters : List Char) : Option (List Char × List Char × List Char) :=
  match characters with
  | '!' :: '<' :: rest => do
      let (reversed, after) <- readUri true rest.length [] rest
      match after with
      | '>' :: left => if reversed.isEmpty then none else some ([], reversed.reverse, left)
      | _ => none
  | _ => do
      let (handle, rest) <- readHandle characters
      if handle.length > 1 && handle.getLast? == some '!' then do
        let (reversed, left) <- readUri false rest.length [] rest
        if reversed.isEmpty then none else some (handle, reversed.reverse, left)
      else do
        let (reversed, left) <- readUri false rest.length (handle.drop 1).reverse rest
        if reversed.isEmpty then some ([], ['!'], left)
        else some (['!'], reversed.reverse, left)

/-- Read a tag that stands here. -/
def readTag (lexer : Lexer) : Option Lexer := do
  let (handle, suffix, rest) <- readTagParts lexer.cursor.rest
  if startsWithGap rest || (lexer.inFlow && rest.head? == some ',') then
    pure { lexer.emit (.tag (String.ofList handle) (String.ofList suffix)) with
      cursor := moveTo lexer.cursor rest }
  else none

/-! ## Directives -/

/-- Read a decimal number of at most nine digits. -/
def readDecimal (characters : List Char) : Option (Nat × List Char) :=
  let digits := characters.takeWhile Char.isDigit
  if digits.isEmpty || digits.length > 9 then none
  else
    some (digits.foldl (fun value digit => 10 * value + (digit.toNat - 48)) 0,
      characters.drop digits.length)

/-- Read the value of a version directive. -/
def readVersion (characters : List Char) : Option (Token × List Char) := do
  let (major, rest) <- readDecimal (characters.dropWhile isBlank)
  match rest with
  | '.' :: after => do
      let (minor, left) <- readDecimal after
      pure (.version major minor, left)
  | _ => none

/-- Read the value of a tag directive. -/
def readTagHandle (characters : List Char) : Option (Token × List Char) := do
  let (handle, rest) <- readHandle (characters.dropWhile isBlank)
  let isHandle := handle.length == 1 || handle.getLast? == some '!'
  if isHandle && rest.head?.any isBlank then do
    let uri := rest.dropWhile isBlank
    let (reversed, left) <- readUri true uri.length [] uri
    if reversed.isEmpty || !startsWithGap left then none
    else pure (.tagHandle (String.ofList handle) (String.ofList reversed.reverse), left)
  else none

/-- Read a directive that stands here. -/
def readDirective (lexer : Lexer) : Option Lexer := do
  let text := lexer.cursor.rest.drop 1
  let name := text.takeWhile isNameChar
  let rest := text.drop name.length
  if name.isEmpty || !startsWithGap rest then none
  else
    let (token, left) <- match String.ofList name with
      | "YAML" => readVersion rest
      | "TAG" => readTagHandle rest
      | _ => none
    let after <- (moveTo lexer.cursor left).finishLine?
    pure { lexer.emit token with cursor := after }

/-! ## Tokens -/

/-- Leave the block collections before a directive or the mark of a document. -/
def leaveDocument (lexer : Lexer) : Option Lexer := do
  let left <- (lexer.unindent (-1)).dropKey
  pure (left.allowKey false)

/-- Open a flow collection. -/
def openFlow (start : Token) (lexer : Lexer) : Option Lexer := do
  let saved <- lexer.saveKey
  pure (({ saved with
    flowDepth := saved.flowDepth + 1
    places := none :: saved.places }.allowKey true).emitOver start 1)

/-- Close a flow collection. -/
def closeFlow (ending : Token) (lexer : Lexer) : Option Lexer := do
  let dropped <- lexer.dropKey
  let closed :=
    if dropped.inFlow then
      { dropped with
        flowDepth := dropped.flowDepth - 1
        places := dropped.places.drop 1 }
    else dropped
  pure ((closed.allowKey false).emitOver ending 1)

/-- Read the comma of a flow collection. -/
def readFlowEntry (lexer : Lexer) : Option Lexer := do
  let dropped <- lexer.dropKey
  pure ((dropped.allowKey true).emitOver .flowEntry 1)

/-- Open a block collection at the cursor.  Something must be allowed to begin here. -/
def beginBlock (start : Token) (lexer : Lexer) : Option Lexer :=
  if lexer.inFlow then some lexer
  else if lexer.keyAllowed then
    some (lexer.openBlock lexer.cursor.column lexer.count start)
  else none

/-- Read the dash of a block sequence. -/
def readBlockEntry (lexer : Lexer) : Option Lexer := do
  let begun <- lexer.beginBlock .blockSequenceStart
  let dropped <- begun.dropKey
  pure ((dropped.allowKey true).emitOver .blockEntry 1)

/-- Read the question mark before a key. -/
def readKey (lexer : Lexer) : Option Lexer := do
  let begun <- lexer.beginBlock .blockMappingStart
  let dropped <- begun.dropKey
  pure ((dropped.allowKey (!dropped.inFlow)).emitOver .key 1)

/-- Read the colon before a value.  When a key may have begun, it has. -/
def readValue (lexer : Lexer) : Option Lexer :=
  match lexer.places with
  | some place :: rest =>
      let announced := lexer.emitAt place.position .key
      let opened := announced.openBlock place.column place.position .blockMappingStart
      some (({ opened with places := none :: rest }.allowKey false).emitOver .value 1)
  | _ => do
      let begun <- lexer.beginBlock .blockMappingStart
      pure ((begun.allowKey (!begun.inFlow)).emitOver .value 1)

/-- Read a token that may be a key. -/
def readContent (read : Lexer -> Option Lexer) (lexer : Lexer) : Option Lexer := do
  let saved <- lexer.saveKey
  read (saved.allowKey false)

/-- Read a quoted scalar. -/
def readQuotedScalar (quote : Char) (lexer : Lexer) : Option Lexer := do
  let opened := lexer.cursor.advance 1
  let (text, after) <- readQuoted quote (opened.rest.length + 1) [] opened
  pure { lexer.emit (.scalar false (String.ofList text)) with cursor := after }

/-- Read a plain scalar. -/
def readPlainScalar (lexer : Lexer) : Option Lexer := do
  let read <- readPlain (lexer.indent + 1) lexer.inFlow (lexer.cursor.rest.length + 1) [] {}
    lexer.cursor
  pure { lexer.emit (.scalar true (String.ofList read.text)) with
    cursor := read.cursor
    keyAllowed := lexer.keyAllowed || read.broken }

/-- Read a block scalar. -/
def readBlockScalar (folding : Bool) (lexer : Lexer) : Option Lexer := do
  let dropped <- lexer.dropKey
  let (text, after) <- readBlock folding lexer.indent (lexer.cursor.advance 1)
  pure { (dropped.allowKey true).emit (.scalar false (String.ofList text)) with
    cursor := after }

/-- Whether a plain scalar may begin with a character before a text. -/
def beginsPlain (inFlow : Bool) (first : Char) (rest : List Char) : Bool :=
  if first == '-' then !rest.head?.any isBlank
  else if first == '?' || first == ':' then !inFlow && !startsWithGap rest
  else !(isGap first || ",[]\x7b\x7d#&*!|>'\"%@`".toList.contains first)

/-- Read the token that begins with a character. -/
def readToken (first : Char) (rest : List Char) (lexer : Lexer) : Option Lexer :=
  let atLineStart := lexer.cursor.column == 0
  if atLineStart && first == '%' then do (<- lexer.leaveDocument).readDirective
  else if lexer.cursor.marks '-' then do
    pure ((<- lexer.leaveDocument).emitOver .documentStart 3)
  else if lexer.cursor.marks '.' then do
    pure ((<- lexer.leaveDocument).emitOver .documentEnd 3)
  else if first == '[' then lexer.openFlow .flowSequenceStart
  else if first == '\x7b' then lexer.openFlow .flowMappingStart
  else if first == ']' then lexer.closeFlow .flowSequenceEnd
  else if first == '\x7d' then lexer.closeFlow .flowMappingEnd
  else if first == ',' then lexer.readFlowEntry
  else if first == '-' && startsWithGap rest then lexer.readBlockEntry
  else if first == '?' && (lexer.inFlow || startsWithGap rest) then lexer.readKey
  else if first == ':' && (lexer.inFlow || startsWithGap rest) then lexer.readValue
  else if first == '*' then lexer.readContent (readAnchor .aliased)
  else if first == '&' then lexer.readContent (readAnchor .anchor)
  else if first == '!' then lexer.readContent readTag
  else if first == '|' && !lexer.inFlow then lexer.readBlockScalar false
  else if first == '>' && !lexer.inFlow then lexer.readBlockScalar true
  else if first == '\'' || first == '"' then lexer.readContent (readQuotedScalar first)
  else if beginsPlain lexer.inFlow first rest then lexer.readContent readPlainScalar
  else none

/-- Read the tokens up to the end of the text. -/
def run : Nat -> Lexer -> Option (List Token)
  | 0, _ => none
  | fuel + 1, lexer => do
      let reached := toNextToken (lexer.cursor.rest.length + 1) lexer
      let fresh <- reached.dropStale
      let placed := fresh.unindent (fresh.cursor.column : Int)
      match placed.cursor.rest with
      | [] => do
          let ended <- (placed.unindent (-1)).dropKey
          pure ended.reversed.reverse
      | first :: rest => do run fuel (<- placed.readToken first rest)

end Lexer

/-- The tokens of a text; none when it is not YAML. -/
def tokens? (text : String) : Option (List Token) :=
  let characters := text.toList
  if characters.all isAllowed then
    Lexer.run (2 * characters.length + 2) { cursor := .start characters }
  else none

end Yaml
end OpenApiTypes
