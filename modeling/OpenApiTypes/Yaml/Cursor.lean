namespace OpenApiTypes
namespace Yaml

/-!
# Positions in YAML text

Indentation is told by columns, and a key must stand on one line, so reading keeps
track of lines and columns.  A line break is a line feed, a carriage return, both
together, or one of the three breaks of Unicode.
-/

/-- A space or a tab. -/
def isBlank (character : Char) : Bool :=
  character == ' ' || character == '\t'

/-- A character that ends a line. -/
def isBreak (character : Char) : Bool :=
  character == '\n' || character == '\r' || character == '\u0085' ||
    character == '\u2028' || character == '\u2029'

/-- A character between words. -/
def isGap (character : Char) : Bool :=
  isBlank character || isBreak character

/-- Whether text begins with a gap or has ended. -/
def startsWithGap : List Char -> Bool
  | [] => true
  | character :: _ => isGap character

/-- Whether a line ends here. -/
def endsLine : List Char -> Bool
  | [] => true
  | character :: _ => isBreak character

/-- Whether a character may stand in YAML text at all. -/
def isAllowed (character : Char) : Bool :=
  let code := character.toNat
  code == 0x09 || code == 0x0a || code == 0x0d || (0x20 <= code && code <= 0x7e) ||
    code == 0x85 || (0xa0 <= code && code <= 0xd7ff) || (0xe000 <= code && code <= 0xfffd) ||
    0x10000 <= code

/-- The mark that some editors put at the beginning of a text. -/
def byteOrderMark : Char := Char.ofNat 0xfeff

/-- A position in a text, with the text from there on. -/
structure Cursor where
  rest : List Char
  /-- The number of characters before the position. -/
  index : Nat
  line : Nat
  column : Nat
deriving Inhabited

namespace Cursor

/-- The beginning of a text. -/
def start (text : List Char) : Cursor := ⟨text, 0, 0, 0⟩

/-- Move over characters of one line. -/
def advance (cursor : Cursor) (count : Nat) : Cursor :=
  { cursor with
    rest := cursor.rest.drop count
    index := cursor.index + count
    column := cursor.column + count }

/-- Move over the characters of a line that satisfy a condition. -/
def advanceWhile (cursor : Cursor) (condition : Char -> Bool) : Cursor :=
  cursor.advance (cursor.rest.takeWhile condition).length

/-- Move over the rest of a line. -/
def toLineEnd (cursor : Cursor) : Cursor :=
  cursor.advanceWhile (fun character => !isBreak character)

/-- Move over a line break. -/
def nextLine (cursor : Cursor) : Cursor :=
  match cursor.rest with
  | '\r' :: '\n' :: rest => ⟨rest, cursor.index + 2, cursor.line + 1, 0⟩
  | _ :: rest => ⟨rest, cursor.index + 1, cursor.line + 1, 0⟩
  | [] => cursor

/-- What a line break is read as: the two wide breaks stand for themselves, others are
line feeds. -/
def breakText (cursor : Cursor) : List Char :=
  match cursor.rest with
  | '\u2028' :: _ => ['\u2028']
  | '\u2029' :: _ => ['\u2029']
  | character :: _ => if isBreak character then ['\n'] else []
  | [] => []

/-- Whether the next character is this one. -/
def sees (cursor : Cursor) (character : Char) : Bool :=
  cursor.rest.head? == some character

/-- Whether three characters and a gap stand here at the beginning of a line. -/
def marks (cursor : Cursor) (mark : Char) : Bool :=
  cursor.column == 0 && cursor.rest.take 3 == [mark, mark, mark] &&
    startsWithGap (cursor.rest.drop 3)

/-- Whether a document begins or ends here. -/
def atDocumentMark (cursor : Cursor) : Bool :=
  cursor.marks '-' || cursor.marks '.'

/-- Move over blanks and a comment to the end of the line; none when something else
stands in between. -/
def finishLine? (cursor : Cursor) : Option Cursor :=
  let trimmed := cursor.advanceWhile isBlank
  let ended := if trimmed.sees '#' then trimmed.toLineEnd else trimmed
  if endsLine ended.rest then some ended.nextLine else none

end Cursor

/-! ## Gaps inside scalars -/

/-- A gap inside a scalar that spans words or lines.  Blanks of one line are kept.
When lines are folded, the first break becomes a space unless further breaks follow. -/
structure Gap where
  /-- The blanks before the first break, back to front. -/
  blanks : List Char := []
  /-- What the first break is read as. -/
  firstBreak : List Char := []
  /-- What the further breaks are read as. -/
  moreBreaks : List Char := []
  /-- The gap reaches a new line. -/
  broken : Bool := false
deriving Inhabited

/-- What a gap contributes to the scalar around it. -/
def Gap.folded (gap : Gap) : List Char :=
  if gap.broken then
    match gap.firstBreak with
    | '\n' :: _ => if gap.moreBreaks.isEmpty then [' '] else gap.moreBreaks
    | _ => gap.firstBreak ++ gap.moreBreaks
  else gap.blanks.reverse

/-- Read a gap.  After a break, tabs before the column `tabLimit` are refused. -/
def readGap (tabLimit : Int) : Nat -> Gap -> Cursor -> Option (Gap × Cursor)
  | 0, gap, cursor => some (gap, cursor)
  | fuel + 1, gap, cursor =>
      match cursor.rest with
      | [] => some (gap, cursor)
      | character :: _ =>
          if isBlank character then
            if gap.broken then
              if character == '\t' && (cursor.column : Int) < tabLimit then none
              else readGap tabLimit fuel gap (cursor.advance 1)
            else
              readGap tabLimit fuel { gap with blanks := character :: gap.blanks }
                (cursor.advance 1)
          else if isBreak character then
            let read :=
              if gap.broken then
                { gap with moreBreaks := gap.moreBreaks ++ cursor.breakText }
              else { gap with blanks := [], firstBreak := cursor.breakText, broken := true }
            readGap tabLimit fuel read cursor.nextLine
          else some (gap, cursor)

end Yaml
end OpenApiTypes
