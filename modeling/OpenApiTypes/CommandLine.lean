import OpenApiTypes.Project.Run

namespace OpenApiTypes
namespace CommandLine

/-!
# The command line

The first argument names what to do, and the others are options of it.  Options are
read from left to right; the first one that is not understood makes the whole line a
usage error, and asking for help ends the reading.
-/

/-! ## Requests -/

/-- What a command line asks for. -/
inductive Request where
  | generate (options : Project.Options) (isDryRun : Bool)
  | inspect (options : Project.Options)
  | help
  | version
deriving DecidableEq, Inhabited

/-- Why a command line is not understood. -/
inductive UsageError where
  | missingCommand
  | unknownCommand (name : String)
  | unexpectedArgument (argument : String)
  | missingValue (option : String)
  | unexpectedValue (option : String)
  | repeatedOption (option : String)
deriving DecidableEq, Inhabited

/-- How a usage error is reported. -/
def UsageError.message : UsageError -> String
  | .missingCommand => "a command is required"
  | .unknownCommand name => "unrecognized command '" ++ name ++ "'"
  | .unexpectedArgument argument => "unexpected argument '" ++ argument ++ "' found"
  | .missingValue option => "a value is required for '" ++ option ++ "'"
  | .unexpectedValue option => "unexpected value for '" ++ option ++ "'"
  | .repeatedOption option => "'" ++ option ++ "' cannot be used multiple times"

/-! ## Arguments -/

/-- The commands that have options. -/
inductive Command where
  | generate
  | inspect
deriving DecidableEq, Inhabited

/-- The options that take a path. -/
inductive PathOption where
  | config
  | input
  | output
deriving DecidableEq, Inhabited

namespace PathOption

/-- The long spelling. -/
def long : PathOption -> String
  | .config => "--config"
  | .input => "--input"
  | .output => "--output"

/-- The letter of the short spelling. -/
def letter : PathOption -> Char
  | .config => 'c'
  | .input => 'i'
  | .output => 'o'

end PathOption

/-- The path options of a command. -/
def Command.pathOptions : Command -> List PathOption
  | .generate => [.config, .input, .output]
  | .inspect => [.config, .input]

/-- What one argument says. -/
inductive Argument where
  /-- A path option; its value may stand in the same argument. -/
  | path (option : PathOption) (value : Option String)
  | dryRun
  | help
  /-- No options follow. -/
  | ending
deriving DecidableEq, Inhabited

/-- Read an argument with two leading dashes. -/
def longArgument (command : Command) (argument : String) : Except UsageError Argument :=
  let (name, value) :=
    match Text.pieces '=' argument with
    | name :: first :: others => (name, some (String.intercalate "=" (first :: others)))
    | _ => (argument, none)
  match command.pathOptions.find? (fun option => option.long == name) with
  | some option => .ok (.path option value)
  | none =>
      if name = "--" && value.isNone then .ok .ending
      else if name = "--help" || (name = "--dry-run" && command = .generate) then
        if value.isSome then .error (.unexpectedValue name)
        else .ok (if name = "--help" then .help else .dryRun)
      else .error (.unexpectedArgument argument)

/-- The value that is attached to a letter; an equals sign may stand between them. -/
def attachedValue : List Char -> Option String
  | [] => none
  | '=' :: value => some (String.ofList value)
  | value => some (String.ofList value)

/-- Read an argument. -/
def readArgument (command : Command) (argument : String) : Except UsageError Argument :=
  match argument.toList with
  | '-' :: '-' :: _ => longArgument command argument
  | '-' :: 'h' :: _ => .ok .help
  | '-' :: letter :: value =>
      match command.pathOptions.find? (fun option => option.letter == letter) with
      | some option => .ok (.path option (attachedValue value))
      | none => .error (.unexpectedArgument argument)
  | _ => .error (.unexpectedArgument argument)

/-! ## Options -/

/-- The options read so far. -/
structure Draft where
  options : Project.Options := {}
  isDryRun : Bool := false
deriving DecidableEq, Inhabited

/-- Set an option that has not been set before. -/
def setOnce (option : PathOption) (value : String) :
    Option String -> Except UsageError (Option String)
  | some _ => .error (.repeatedOption option.long)
  | none => if value = "" then .error (.missingValue option.long) else .ok (some value)

/-- Take the value of a path option. -/
def Draft.take (draft : Draft) (option : PathOption) (value : String) :
    Except UsageError Draft := do
  let given := draft.options
  match option with
  | .config =>
      pure { draft with options := { given with config := <- setOnce option value given.config } }
  | .input =>
      pure { draft with options := { given with input := <- setOnce option value given.input } }
  | .output =>
      pure { draft with options := { given with output := <- setOnce option value given.output } }

/-- Whether an argument can be the value of the option before it.  A single dash can. -/
def isValue (argument : String) : Bool :=
  argument == "-" || !argument.startsWith "-"

/-- Read the options of a command; none when help is asked for. -/
def readOptions (command : Command) (draft : Draft) :
    List String -> Except UsageError (Option Draft)
  | [] => .ok (some draft)
  | argument :: rest =>
      match readArgument command argument with
      | .error error => .error error
      | .ok .help => .ok none
      | .ok .ending =>
          match rest with
          | [] => .ok (some draft)
          | extra :: _ => .error (.unexpectedArgument extra)
      | .ok .dryRun =>
          if draft.isDryRun then .error (.repeatedOption "--dry-run")
          else readOptions command { draft with isDryRun := true } rest
      | .ok (.path option (some value)) =>
          match draft.take option value with
          | .error error => .error error
          | .ok taken => readOptions command taken rest
      | .ok (.path option none) =>
          match rest with
          | [] => .error (.missingValue option.long)
          | value :: others =>
              if isValue value then
                match draft.take option value with
                | .error error => .error error
                | .ok taken => readOptions command taken others
              else .error (.missingValue option.long)

/-- The command of a name. -/
def command? (name : String) : Option Command :=
  match name with
  | "generate" => some .generate
  | "inspect" => some .inspect
  | _ => none

/-- The request that a command makes with its options. -/
def Command.request : Command -> Option Draft -> Request
  | _, none => .help
  | .generate, some draft => .generate draft.options draft.isDryRun
  | .inspect, some draft => .inspect draft.options

/-- Read what help is asked for. -/
def readHelp : List String -> Except UsageError Request
  | [] => .ok .help
  | ["help"] => .ok .help
  | name :: rest =>
      match command? name, rest with
      | some _, [] => .ok .help
      | some _, extra :: _ => .error (.unknownCommand extra)
      | none, _ => .error (.unknownCommand name)

/-- Read a command line. -/
def parse : List String -> Except UsageError Request
  | [] => .error .missingCommand
  | "help" :: rest => readHelp rest
  | "--help" :: _ => .ok .help
  | "--version" :: _ => .ok .version
  | name :: rest =>
      match command? name, name.toList with
      | some command, _ => (readOptions command {} rest).map command.request
      | none, '-' :: 'h' :: _ => .ok .help
      | none, '-' :: 'V' :: _ => .ok .version
      | none, '-' :: _ => .error (.unexpectedArgument name)
      | none, _ => .error (.unknownCommand name)

/-! ## Running -/

/-- What a command line leaves behind. -/
structure Report where
  /-- The exit code. -/
  code : Nat := 0
  output : String := ""
  errors : String := ""
deriving DecidableEq, Inhabited

/-- How the command line is used. -/
def usage : String :=
  "OpenAPI to TypeScript type generator\n\n" ++
  "Usage: openapi-typegen <COMMAND>\n\n" ++
  "Commands:\n" ++
  "  generate  Generate TypeScript modules from an OpenAPI document\n" ++
  "  inspect   Print the operations found in an OpenAPI document\n" ++
  "  help      Print this message\n\n" ++
  "Options:\n" ++
  "  -c, --config <CONFIG>  Config file (defaults to `typegen.toml` when present)\n" ++
  "  -i, --input <INPUT>    OpenAPI document; overrides `input-doc`\n" ++
  "  -o, --output <OUTPUT>  Output directory; overrides `output-dir` (generate)\n" ++
  "      --dry-run          Print the modules that would be written (generate)\n" ++
  "  -h, --help             Print help\n" ++
  "  -V, --version          Print version\n"

/-- The name and the version of the program. -/
def versionLine : String :=
  "typegen-cli 0.1.0\n"

/-- Lines as they are printed. -/
def printed (lines : List String) : String :=
  String.join (lines.map (fun line => line ++ "\n"))

/-- The report of a session that prints lines. -/
def report (session : Project.Session (List String)) : StateM Project.World Report := do
  match <- session.run with
  | .ok lines => pure { output := printed lines }
  | .error failure => pure { code := 1, errors := "Error: " ++ failure.parts ++ "\n" }

/-- Do what is asked for. -/
def perform (executor : Project.Executor) : Request -> StateM Project.World Report
  | .help => pure { output := usage }
  | .version => pure { output := versionLine }
  | .inspect options => report (Project.inspect options)
  | .generate options true => report (Project.dryRun executor options)
  | .generate options false =>
      report (do
        let _ <- Project.generate executor options
        pure [])

/-- Run a command line. -/
def execute (executor : Project.Executor) (arguments : List String) :
    StateM Project.World Report :=
  match parse arguments with
  | .ok request => perform executor request
  | .error error => pure { code := 2, errors := "error: " ++ error.message ++ "\n" }

end CommandLine
end OpenApiTypes
