import OpenApiTypes.Template.Scanner
import OpenApiTypes.Text.Blank

namespace OpenApiTypes
namespace Template

/-!
# From template text to parts

Template text is cut into pieces: text, values to print, tags and comments.  A dash
inside a delimiter trims the blanks of the text beside it.  After trimming, the tags
are matched with each other and the pieces become parts.
-/

/-- A piece of template text. -/
inductive Content where
  | text (characters : List Char)
  | print (value : Expr)
  | assign (name : String) (value : Expr)
  | openChoice (condition : Expr)
  | nextChoice (condition : Expr)
  | lastChoice
  | closeChoice
  /-- A comment, or the edge of text that is not read. -/
  | silent
deriving Inhabited

/-- A piece with the trimming that its delimiters ask for. -/
structure Piece where
  trimsBefore : Bool
  content : Content
  trimsAfter : Bool
deriving Inhabited

/-- A piece of text trims nothing. -/
def textPiece (characters : List Char) : Piece := ⟨false, .text characters, false⟩

/-! ## Delimiters -/

/-- What a piece of template text begins with. -/
inductive Opening where
  | value
  | tag
  | comment

/-- Read an opening delimiter, with its dash. -/
def opening? (characters : List Char) : Option (Opening × Bool × List Char) :=
  let dashed (opening : Opening) (rest : List Char) : Option (Opening × Bool × List Char) :=
    match rest with
    | '-' :: left => some (opening, true, left)
    | _ => some (opening, false, rest)
  match characters with
  | '\x7b' :: '\x7b' :: rest => dashed .value rest
  | '\x7b' :: '%' :: rest => dashed .tag rest
  | '\x7b' :: '#' :: rest => dashed .comment rest
  | _ => none

/-- Read a closing delimiter after blanks, with its dash. -/
def closing? (closing : String) (characters : List Char) : Option (Bool × List Char) :=
  match token? ("-" ++ closing) characters with
  | some rest => some (true, rest)
  | none => (token? closing characters).map (fun rest => (false, rest))

/-- The characters before the first opening delimiter, and the rest. -/
def plainText : List Char -> List Char × List Char
  | [] => ([], [])
  | character :: rest =>
      match opening? (character :: rest) with
      | some _ => ([], character :: rest)
      | none =>
          let (run, left) := plainText rest
          (character :: run, left)

/-- Skip a comment up to its end. -/
def afterComment? : List Char -> Option (Bool × List Char)
  | [] => none
  | '-' :: '#' :: '\x7d' :: rest => some (true, rest)
  | '#' :: '\x7d' :: rest => some (false, rest)
  | _ :: rest => afterComment? rest

/-- The opening of a tag that consists of a word alone. -/
def wordTag? (word : String) (characters : List Char) : Option (Bool × Bool × List Char) := do
  let (opening, before, rest) <- opening? characters
  match opening with
  | .tag => do
      let after <- token? word rest
      let (trims, left) <- closing? "%\x7d" after
      pure (before, trims, left)
  | _ => none

/-- Text that is not read, up to the tag that ends it. -/
def rawText? : List Char -> Option (List Char × Bool × Bool × List Char)
  | [] => none
  | character :: rest =>
      match wordTag? "endraw" (character :: rest) with
      | some (before, after, left) => some ([], before, after, left)
      | none =>
          match rawText? rest with
          | some (text, before, after, left) => some (character :: text, before, after, left)
          | none => none

/-! ## Tags -/

/-- Read a tag with a condition. -/
def conditionTag? (word : String) (make : Expr -> Content) (before : Bool)
    (characters : List Char) : Option (Piece × List Char) := do
  let rest <- token? word characters
  let (condition, after) <- expression? rest
  let (trims, left) <- closing? "%\x7d" after
  pure (⟨before, make condition, trims⟩, left)

/-- Read a tag that consists of a word. -/
def plainTag? (word : String) (content : Content) (before : Bool)
    (characters : List Char) : Option (Piece × List Char) := do
  let rest <- token? word characters
  let (trims, left) <- closing? "%\x7d" rest
  pure (⟨before, content, trims⟩, left)

/-- Read a tag that binds a name. -/
def assignTag? (word : String) (before : Bool) (characters : List Char) :
    Option (Piece × List Char) := do
  let rest <- wordOperator? word characters
  let (name, after) <- plainName? (skipSpace rest)
  let assigned <- token? "=" after
  let (value, last) <- expression? assigned
  let (trims, left) <- closing? "%\x7d" last
  pure (⟨before, .assign name value, trims⟩, left)

/-- Read any tag but that of text that is not read. -/
def tag? (before : Bool) (characters : List Char) : Option (Piece × List Char) :=
  conditionTag? "if" .openChoice before characters <|>
    conditionTag? "elif" .nextChoice before characters <|>
    plainTag? "else" .lastChoice before characters <|>
    plainTag? "endif" .closeChoice before characters <|>
    assignTag? "set_global" before characters <|>
    assignTag? "set" before characters

/-! ## Pieces -/

/-- Cut template text into pieces. -/
def pieces? : Nat -> List Char -> Option (List Piece)
  | _, [] => some []
  | 0, _ :: _ => none
  | fuel + 1, characters =>
      match opening? characters with
      | none => do
          let (run, rest) := plainText characters
          let others <- pieces? fuel rest
          pure (textPiece run :: others)
      | some (.value, before, rest) => do
          let (value, after) <- expression? rest
          let (trims, left) <- closing? "\x7d\x7d" after
          let others <- pieces? fuel left
          pure (⟨before, .print value, trims⟩ :: others)
      | some (.comment, before, rest) => do
          let (trims, left) <- afterComment? rest
          let others <- pieces? fuel left
          pure (⟨before, .silent, trims⟩ :: others)
      | some (.tag, before, rest) =>
          match wordTag? "raw" characters with
          | some (_, trimsRaw, body) => do
              let (text, trimsEnd, trims, left) <- rawText? body
              let others <- pieces? fuel left
              pure (⟨before, .silent, trimsRaw⟩ :: textPiece text ::
                ⟨trimsEnd, .silent, trims⟩ :: others)
          | none => do
              let (piece, left) <- tag? before rest
              let others <- pieces? fuel left
              pure (piece :: others)

/-- Whether the next piece trims the text before it. -/
def nextTrims : List Piece -> Bool
  | [] => false
  | piece :: _ => piece.trimsBefore

/-- Trim text beside delimiters with a dash.  `trimming` says that the piece before the
rest trims what follows it. -/
def trimPieces (trimming : Bool) : List Piece -> List Content
  | [] => []
  | piece :: rest =>
      let content := match piece.content with
        | .text characters =>
            let started := if trimming then Text.trimStartChars characters else characters
            .text (if nextTrims rest then Text.trimEndChars started else started)
        | other => other
      content :: trimPieces piece.trimsAfter rest

/-! ## Parts -/

/-- A choice whose parts are being read. -/
structure OpenChoice where
  /-- The parts before the choice, back to front. -/
  before : List Node
  /-- The finished branches, back to front. -/
  branches : List (Expr × List Node)
  /-- The condition of the current branch; none in the last one. -/
  condition : Option Expr

/-- Match tags and gather parts.  `parts` are those of the innermost part being read,
back to front; `choices` are the choices around it, innermost first. -/
def gather (choices : List OpenChoice) (parts : List Node) : List Content -> Option (List Node)
  | [] =>
      match choices with
      | [] => some parts.reverse
      | _ :: _ => none
  | .text characters :: rest => gather choices (.text (String.ofList characters) :: parts) rest
  | .print value :: rest => gather choices (.print value :: parts) rest
  | .assign name value :: rest => gather choices (.assign name value :: parts) rest
  | .silent :: rest => gather choices parts rest
  | .openChoice condition :: rest => gather (⟨parts, [], some condition⟩ :: choices) [] rest
  | .nextChoice condition :: rest =>
      match choices with
      | ⟨before, branches, some current⟩ :: outer =>
          gather (⟨before, (current, parts.reverse) :: branches, some condition⟩ :: outer) [] rest
      | _ => none
  | .lastChoice :: rest =>
      match choices with
      | ⟨before, branches, some current⟩ :: outer =>
          gather (⟨before, (current, parts.reverse) :: branches, none⟩ :: outer) [] rest
      | _ => none
  | .closeChoice :: rest =>
      match choices with
      | ⟨before, branches, some current⟩ :: outer =>
          gather outer
            (.choose ((current, parts.reverse) :: branches).reverse [] :: before) rest
      | ⟨before, branches, none⟩ :: outer =>
          gather outer (.choose branches.reverse parts.reverse :: before) rest
      | [] => none

/-- Read a template; none when its text is not a template. -/
def parse? (source : String) : Option (List Node) := do
  let characters := source.toList
  let pieces <- pieces? (characters.length + 1) characters
  gather [] [] (trimPieces false pieces)

end Template
end OpenApiTypes
