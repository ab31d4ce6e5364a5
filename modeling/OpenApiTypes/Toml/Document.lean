import OpenApiTypes.Toml.Table
import OpenApiTypes.Toml.Text

namespace OpenApiTypes
namespace Toml

/-!
# Reading TOML text

A document is a sequence of lines that define values or begin tables.  Every reader
takes at least one character before it calls another one, so the number of characters
bounds the nesting; that number is the fuel.
-/

/-- Read an exact text. -/
def exactly? : List Char -> List Char -> Option (List Char)
  | [], rest => some rest
  | expected :: more, character :: rest =>
      if expected = character then exactly? more rest else none
  | _ :: _, [] => none

/-- Read a value that is neither an array nor a table. -/
def simpleValue? (characters : List Char) : Option (Value × List Char) :=
  match characters with
  | '"' :: _ => (string? characters).map (fun (text, rest) => (.string text, rest))
  | '\'' :: _ => (string? characters).map (fun (text, rest) => (.string text, rest))
  | 't' :: _ => (exactly? "true".toList characters).map (fun rest => (.boolean true, rest))
  | 'f' :: _ => (exactly? "false".toList characters).map (fun rest => (.boolean false, rest))
  | _ => (scalar? characters).map (fun (value, rest) => (.scalar value, rest))

mutual

/-- Read a value.  `depth` is the number of arrays and inline tables around it. -/
def value? (depth : Nat) (fuel : Nat) (characters : List Char) : Option (Value × List Char) :=
  match fuel with
  | 0 => none
  | fuel + 1 =>
      match characters with
      | '[' :: rest =>
          if depth + 1 < depthLimit then do
            let (items, left) <- items? (depth + 1) fuel rest
            pure (.array items, left)
          else none
      | '\x7b' :: rest =>
          if depth + 1 < depthLimit then
            match skipBlanks rest with
            | '\x7d' :: left => some (.table [], left)
            | _ => do
                let (entries, left) <- inline? (depth + 1) fuel [] rest
                pure (.table (completeEntries entries), left)
          else none
      | _ => simpleValue? characters
termination_by structural fuel

/-- Read the items of an array up to its end.  A comma may stand after the last one. -/
def items? (depth : Nat) (fuel : Nat) (characters : List Char) :
    Option (List Value × List Char) :=
  match fuel with
  | 0 => none
  | fuel + 1 =>
      match skipLines (characters.length + 1) characters with
      | ']' :: rest => some ([], rest)
      | start => do
          let (item, after) <- value? depth fuel start
          match skipLines (after.length + 1) after with
          | ']' :: rest => pure ([item], rest)
          | ',' :: rest => do
              let (items, left) <- items? depth fuel rest
              pure (item :: items, left)
          | _ => none
termination_by structural fuel

/-- Read the entries of an inline table up to its end. -/
def inline? (depth : Nat) (fuel : Nat) (entries : Entries) (characters : List Char) :
    Option (Entries × List Char) :=
  match fuel with
  | 0 => none
  | fuel + 1 => do
      let (path, afterKey) <- key? characters
      let assigned <- exactly? ['='] afterKey
      let (value, afterValue) <- value? depth fuel (skipBlanks assigned)
      let more <- define? path (.value value) entries
      match skipBlanks afterValue with
      | '\x7d' :: rest => pure (more, rest)
      | ',' :: rest => inline? depth fuel more rest
      | _ => none
termination_by structural fuel

end

/-- Read a definition of a value. -/
def definition? (draft : Draft) (characters : List Char) : Option (Draft × List Char) := do
  let (path, afterKey) <- key? characters
  let assigned <- exactly? ['='] afterKey
  let start := skipBlanks assigned
  let (value, afterValue) <- value? 0 (2 * start.length + 2) start
  let rest <- lineEnd? afterValue
  let defined <- draft.set? path value
  pure (defined, rest)

/-- Read a header whose brackets have been read, with its closing brackets. -/
def header? (closing : List Char) (characters : List Char) :
    Option (List String × List Char) := do
  let (path, afterKey) <- key? characters
  let rest <- lineEnd? (<- exactly? closing afterKey)
  pure (path, rest)

/-- Read the lines of a document. -/
def statements? : Nat -> Draft -> List Char -> Option Draft
  | 0, _, _ => none
  | fuel + 1, draft, characters =>
      match skipBlanks characters with
      | [] => some draft
      | '[' :: '[' :: rest => do
          let (path, left) <- header? [']', ']'] rest
          statements? fuel (<- draft.beginElement? path) left
      | '[' :: rest => do
          let (path, left) <- header? [']'] rest
          statements? fuel (<- draft.begin? path) left
      | start =>
          match lineEnd? start with
          | some rest => statements? fuel draft rest
          | none => do
              let (defined, rest) <- definition? draft start
              statements? fuel defined rest

/-- A text without the mark that some editors put at its beginning. -/
def withoutMark (characters : List Char) : List Char :=
  match characters with
  | first :: rest => if first.toNat = 0xfeff then rest else characters
  | [] => []

/-- The table that a text describes; none when it is not TOML. -/
def parse? (text : String) : Option (List (String × Value)) := do
  let characters := withoutMark text.toList
  let draft <- statements? (characters.length + 1) {} characters
  let root <- draft.finish?
  pure (completeEntries root)

end Toml
end OpenApiTypes
