namespace OpenApiTypes
namespace Text

/-!
# Lines and separators

A line ends at a line feed, and one carriage return before the line feed belongs to
the line ending.  Text after the last line feed is a line of its own unless it is
empty; its carriage returns are content, because no line feed follows them.
-/

/-- Remove one carriage return from the end of a line that a line feed ended. -/
def dropFinalReturn (line : List Char) : List Char :=
  match line.getLast? with
  | some '\r' => line.dropLast
  | _ => line

/-- Collect lines; `reversed` holds the current line back to front. -/
def linesFrom (reversed : List Char) : List Char -> List (List Char)
  | [] => if reversed.isEmpty then [] else [reversed.reverse]
  | '\n' :: rest => dropFinalReturn reversed.reverse :: linesFrom [] rest
  | character :: rest => linesFrom (character :: reversed) rest

/-- The lines of a text, without their endings. -/
def lines (characters : List Char) : List (List Char) :=
  linesFrom [] characters

/-- Cut a list at every occurrence of a separator; there is always one piece more
than there are separators. -/
def splitAt (separator : Char) : List Char -> List (List Char)
  | [] => [[]]
  | character :: rest =>
      if character = separator then [] :: splitAt separator rest
      else
        match splitAt separator rest with
        | [] => [[character]]
        | piece :: pieces => (character :: piece) :: pieces

/-- The pieces of a text between the separators. -/
def pieces (separator : Char) (text : String) : List String :=
  (splitAt separator text.toList).map String.ofList

/-- Replace every occurrence of a non-empty pattern, from left to right and without
looking at replacements again.  `skip` counts the characters of a match that have
already been replaced. -/
def replaceFrom (pattern replacement : List Char) : Nat -> List Char -> List Char
  | _, [] => []
  | skip + 1, _ :: rest => replaceFrom pattern replacement skip rest
  | 0, character :: rest =>
      if pattern.isPrefixOf (character :: rest) then
        replacement ++ replaceFrom pattern replacement (pattern.length - 1) rest
      else character :: replaceFrom pattern replacement 0 rest

/-- Replace every occurrence of a pattern.  An empty pattern occurs before every
character and at the end. -/
def replaceAll (pattern replacement : List Char) (characters : List Char) : List Char :=
  if pattern.isEmpty then
    replacement ++ characters.flatMap (fun character => character :: replacement)
  else replaceFrom pattern replacement 0 characters

/-- Fill a text with spaces on the right up to a width in characters. -/
def padRight (width : Nat) (text : String) : String :=
  text ++ String.ofList (List.replicate (width - text.length) ' ')

/-- Fill a text with spaces on the left up to a width in characters. -/
def padLeft (width : Nat) (text : String) : String :=
  String.ofList (List.replicate (width - text.length) ' ') ++ text

end Text
end OpenApiTypes
