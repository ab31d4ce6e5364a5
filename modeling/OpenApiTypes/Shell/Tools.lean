import OpenApiTypes.Files.Tree
import OpenApiTypes.Shell.Octets
import OpenApiTypes.Text.Utf8

namespace OpenApiTypes
namespace Shell

/-!
# Tools

A tool is a program that the library knows.  It reads octets, may look at files and
change them, and writes octets on two outputs.
-/

/-- What a tool is given. -/
structure Given where
  arguments : List String
  input : List UInt8
  files : Files.Tree

/-- What a tool leaves behind. -/
structure Left where
  status : Nat := 0
  output : List UInt8 := []
  errors : String := ""
  /-- What it did not read of its input. -/
  input : List UInt8
  files : Files.Tree

/-- A tool. -/
abbrev Tool := Given -> Left

namespace Given

/-- A tool that only ends. -/
def ending (given : Given) (status : Nat) : Left :=
  { status, input := given.input, files := given.files }

/-- A tool that only writes. -/
def writing (given : Given) (output : List UInt8) : Left :=
  { output, input := given.input, files := given.files }

/-- A tool that gives up. -/
def complaining (given : Given) (status : Nat) (errors : String) : Left :=
  { status, errors := errors ++ "\n", input := given.input, files := given.files }

end Given

/-! ## Writing text -/

/-- Write words with a blank between them; `-n` leaves the line open. -/
def echo (escapes : Bool) : Tool := fun given =>
  let leavesOpen := given.arguments.head? == some "-n"
  let text := String.intercalate " " (if leavesOpen then given.arguments.tail else given.arguments)
  let ending := if leavesOpen then "" else "\n"
  given.writing ((if escapes then unescape true text else octets text) ++ octets ending)

/-- An item of a format. -/
inductive FormatItem where
  | text (value : String)
  | argument
  /-- An argument in which escapes are replaced. -/
  | escaped

/-- The items of a format.  `reversed` holds text back to front. -/
def formatItems (reversed : List Char) : List Char -> List FormatItem
  | [] => [.text (String.ofList reversed.reverse)]
  | '%' :: '%' :: rest => formatItems ('%' :: reversed) rest
  | '%' :: 's' :: rest => .text (String.ofList reversed.reverse) :: .argument :: formatItems [] rest
  | '%' :: 'd' :: rest => .text (String.ofList reversed.reverse) :: .argument :: formatItems [] rest
  | '%' :: 'b' :: rest => .text (String.ofList reversed.reverse) :: .escaped :: formatItems [] rest
  | character :: rest => formatItems (character :: reversed) rest

/-- Write the items once; what is left of the arguments comes back. -/
def fillFormat : List FormatItem -> List String -> List UInt8 × List String
  | [], arguments => ([], arguments)
  | .text value :: items, arguments =>
      let (output, left) := fillFormat items arguments
      (unescape false value ++ output, left)
  | .argument :: items, arguments =>
      let (output, left) := fillFormat items arguments.tail
      (octets (arguments.headD "") ++ output, left)
  | .escaped :: items, arguments =>
      let (output, left) := fillFormat items arguments.tail
      (unescape true (arguments.headD "") ++ output, left)

/-- Write the items until the arguments are used up.  Each round uses one at least, so
their number bounds the rounds. -/
def fillFormats (items : List FormatItem) : Nat -> List String -> List UInt8
  | 0, _ => []
  | rounds + 1, arguments =>
      let (output, left) := fillFormat items arguments
      if left.isEmpty || left.length = arguments.length then output
      else output ++ fillFormats items rounds left

/-- Write arguments in a format. -/
def printf : Tool := fun given =>
  match given.arguments with
  | [] => given.complaining 2 "printf: usage: printf format [arg ...]"
  | format :: arguments =>
      given.writing (fillFormats (formatItems [] format.toList) (arguments.length + 1) arguments)

/-! ## Passing text on -/

/-- Write the files that are named, or else the input. -/
def catFrom (given : Given) : List String -> Left -> Left
  | [], left => left
  | "-" :: rest, left =>
      catFrom given rest { left with output := left.output ++ left.input, input := [] }
  | path :: rest, left =>
      match given.files.at? path with
      | .ok (.file content) => catFrom given rest { left with output := left.output ++ content }
      | .ok .directory =>
          catFrom given rest { left with
            status := 1, errors := left.errors ++ "cat: " ++ path ++ ": Is a directory\n" }
      | .error problem =>
          let reason := (problem.system?.map (fun parts => parts.2.2)).getD problem.message
          catFrom given rest { left with
            status := 1, errors := left.errors ++ "cat: " ++ path ++ ": " ++ reason ++ "\n" }

/-- Write the files that are named, or else the input. -/
def cat : Tool := fun given =>
  let arguments := if given.arguments.isEmpty then ["-"] else given.arguments
  catFrom given arguments (given.ending 0)

/-- Replace the octets of a set by those of another, or with `-d` remove them. -/
def tr : Tool := fun given =>
  let passing (output : List UInt8) : Left := { given.writing output with input := [] }
  match given.arguments with
  | ["-d", set] =>
      let removed := octetSet set
      passing (given.input.filter (fun value => !removed.contains value))
  | [source, target] =>
      passing (given.input.map (replacement (octetSet source) (octetSet target)))
  | [] => given.complaining 1 "tr: missing operand"
  | _ => given.complaining 1 "tr: extra operand"

/-! ## Files -/

/-- Apply a change to each path; the first one that fails ends the tool. -/
def eachPath (name : String) (change : Files.Tree -> String -> Except Files.Problem Files.Tree)
    (given : Given) : List String -> Files.Tree -> Left
  | [], files => { given.ending 0 with files }
  | path :: rest, files =>
      match change files path with
      | .ok changed => eachPath name change given rest changed
      | .error problem =>
          let reason := (problem.system?.map (fun parts => parts.2.2)).getD problem.message
          { given.complaining 1 (name ++ ": " ++ path ++ ": " ++ reason) with files }

/-- Make directories. -/
def mkdir : Tool := fun given =>
  match given.arguments with
  | "-p" :: paths =>
      eachPath "mkdir" (fun files path =>
        match files.makeDirectories path with
        | (.ok (), made) => .ok made
        | (.error problem, _) => .error problem) given paths given.files
  | paths => eachPath "mkdir" Files.Tree.makeDirectory given paths given.files

/-- Make empty files where nothing is. -/
def touch : Tool := fun given =>
  eachPath "touch" (fun files path =>
    if files.isThere path then .ok files else files.writeText path "")
    given given.arguments given.files

/-- Remove files, and with `-r` directories.  With `-f` a missing file is no fault. -/
def rm : Tool := fun given =>
  let flags := (given.arguments.takeWhile (fun word => word.startsWith "-")).flatMap String.toList
  let paths := given.arguments.dropWhile (fun word => word.startsWith "-")
  eachPath "rm" (fun files path =>
    match files.at? path, files.resolve path with
    | .ok node, .ok place =>
        if node = .directory && !flags.contains 'r' then .error .isDirectory
        else .ok (files.erase place)
    | .error problem, _ => if flags.contains 'f' then .ok files else .error problem
    | _, .error problem => .error problem) given paths given.files

/-- The truth of a test. -/
def holds (files : Files.Tree) : List String -> Bool
  | "!" :: rest => !holds files rest
  | ["-e", path] => files.isThere path
  | ["-d", path] => files.isDirectory path
  | ["-f", path] => files.isThere path && !files.isDirectory path
  | ["-n", text] => text != ""
  | ["-z", text] => text == ""
  | [left, "=", right] => left == right
  | [left, "!=", right] => left != right
  | [text] => text != ""
  | _ => false

/-- End well if a test holds. -/
def test : Tool := fun given =>
  given.ending (if holds given.files given.arguments then 0 else 1)

/-! ## All tools -/

/-- The tool of a name.  Within a command line, `echo` replaces escapes. -/
def tool? (withinLine : Bool) (name : String) : Option Tool :=
  match name with
  | "true" => some (fun given => given.ending 0)
  | "false" => some (fun given => given.ending 1)
  | "sleep" => some (fun given => given.ending 0)
  | "echo" => some (echo withinLine)
  | "printf" => some printf
  | "cat" => some cat
  | "tr" => some tr
  | "mkdir" => some mkdir
  | "touch" => some touch
  | "rm" => some rm
  | "test" => some test
  | "[" => some (fun given => test { given with arguments := given.arguments.dropLast })
  | ":" => if withinLine then some (fun given => given.ending 0) else none
  | _ => none

end Shell
end OpenApiTypes
