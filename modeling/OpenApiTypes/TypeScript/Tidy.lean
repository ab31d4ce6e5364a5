import OpenApiTypes.Text.Blank
import OpenApiTypes.Text.Lines

namespace OpenApiTypes
namespace TypeScript

/-!
# Tidying source text

The built-in formatter works on lines.  It strips blanks from the ends of lines, merges
blank lines into one, drops leading blank lines, and ends the text with one line feed.
A template literal may span lines, and blanks inside it are content: a line that starts
or ends inside a template literal is kept as it is.  Which lines those are is told by
the parity of the backticks met so far; a backtick after an odd run of backslashes does
not count.
-/

/-- Whether a line has an odd number of unescaped backticks.  `escaped` says that a
backslash stands directly before the rest. -/
def togglesTemplate (escaped : Bool) : List Char -> Bool
  | [] => false
  | character :: rest =>
      let delimiter := character == '`' && !escaped
      xor delimiter (togglesTemplate (character == '\\' && !escaped) rest)

/-- What the formatter remembers between lines. -/
structure TidyState where
  /-- The next line starts inside a template literal. -/
  inside : Bool
  /-- A line has been written. -/
  started : Bool
  /-- Blank lines stand between the last written line and the next one. -/
  pending : Bool

/-- The state before the first line. -/
def TidyState.initial : TidyState := ⟨false, false, false⟩

/-- The lines that the formatter writes for the lines it reads. -/
def tidyLines (state : TidyState) : List (List Char) -> List (List Char)
  | [] => []
  | raw :: rest =>
      let endsInside := xor state.inside (togglesTemplate false raw)
      let line := if state.inside || endsInside then raw else Text.trimEndChars raw
      if line.isEmpty && !state.inside then
        tidyLines ⟨endsInside, state.started, state.started⟩ rest
      else
        (if state.pending then [[], line] else [line]) ++
          tidyLines ⟨endsInside, true, false⟩ rest

/-- Tidy a text given by its characters. -/
def tidyChars (characters : List Char) : List Char :=
  (tidyLines .initial (Text.lines characters)).flatMap (fun line => line ++ ['\n'])

/-- Tidy a source text. -/
def tidy (source : String) : String :=
  String.ofList (tidyChars source.toList)

end TypeScript
end OpenApiTypes
