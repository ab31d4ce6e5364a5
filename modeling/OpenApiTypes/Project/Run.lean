import OpenApiTypes.Document.Source
import OpenApiTypes.Inspection
import OpenApiTypes.Modules.Generation
import OpenApiTypes.Project.Commands
import OpenApiTypes.Project.Config
import OpenApiTypes.TypeScript.Tidy

namespace OpenApiTypes
namespace Project

/-!
# Running a project

A run goes from the configuration over the document to modules on disk.  All modules
are generated and formatted before the first file is touched, so a failure up to there
leaves the output directory as it was.  A dry run ends at that point.
-/

/-! ## Configuring -/

/-- The configuration file of a project that names none. -/
def defaultConfigPath : String := "typegen.toml"

/-- What is asked for besides the configuration file.  A path given here goes before the
one in the configuration. -/
structure Options where
  config : Option String := none
  input : Option String := none
  output : Option String := none
deriving DecidableEq, Inhabited

/-- Load the configuration.  A file that is asked for must be there; the default one
need not be. -/
def loadConfig (asked : Option String) (files : Files.Tree) : Except RunFailure Config :=
  let path := asked.getD defaultConfigPath
  if files.isThere path then
    match files.readText path with
    | .error problem => .error (.io problem)
    | .ok text => Config.ofText text
  else
    match asked with
    | some missing => .error (.configNotFound missing)
    | none => .ok {}

/-- The configuration with the paths that were asked for. -/
def Config.override (config : Config) (options : Options) : Config :=
  { config with
    input := options.input <|> config.input
    output := options.output <|> config.output }

/-- The configuration that a run uses. -/
def configure (options : Options) (files : Files.Tree) : Except RunFailure Config :=
  (loadConfig options.config files).map (fun config => config.override options)

/-! ## Compiling -/

/-- Take a part of the configuration that must be there. -/
def expect {Result : Type} (missing : RunFailure) : Option Result -> Except RunFailure Result
  | some result => .ok result
  | none => .error missing

/-- The document that a configuration names. -/
def readDocument (config : Config) (files : Files.Tree) : Except RunFailure Document := do
  let path <- expect .noInput config.input
  let text <- (files.readText path).mapError RunFailure.io
  (Document.ofText text).mapError .generation

/-- What is left to do once all bodies are made. -/
structure Plan where
  bodies : List Modules.Body
  /-- The program that formats, with its arguments. -/
  formatter : Option (String × List String)
deriving DecidableEq, Inhabited

/-- Make the bodies of all modules.  This only looks at the files. -/
def plan (config : Config) (files : Files.Tree) : Except RunFailure Plan := do
  let document <- readDocument config files
  let renderer <- (config.endpoints.mapM Modules.templateRenderer).mapError .generation
  let formatter <- config.formatter.mapM splitCommand
  let bodies <- (Modules.bodies config.settings renderer document).mapError .generation
  pure ⟨bodies, formatter⟩

/-- Format a source with the configured program, or else tidy it. -/
def format (executor : Executor) (formatter : Option (String × List String))
    (source : String) : Session String :=
  match formatter with
  | none => pure (TypeScript.tidy source)
  | some (program, arguments) =>
      ExceptT.mk (do
        let result <- formatWith executor program arguments source
        pure (result.mapError .generation))

/-- Generate and format all modules. -/
def compile (executor : Executor) (config : Config) : Session (List Module) := do
  let made <- Session.view (plan config)
  Modules.formatBodies config.settings (format executor made.formatter) made.bodies

/-! ## Writing -/

/-- Write modules into a directory, and return the paths of their files. -/
def writeModules (directory : String) (modules : List Module) : Session (List String) :=
  modules.mapM (fun entry => do
    let path := Files.join directory entry.kind.fileName
    Session.change (fun files => files.writeText path entry.text)
    pure path)

/-- Run a project: the hook before, the modules, the output directory, the hook after. -/
def run (executor : Executor) (config : Config) : Session (List String) := do
  let directory <- Session.ofExcept (expect .noOutput config.output)
  runHook? executor "before" config.hooks.before
  let modules <- compile executor config
  Session.changeBySteps (fun files => files.makeDirectories directory)
  if config.cleansOutput then Session.change (fun files => files.clean directory)
  let written <- writeModules directory modules
  runHook? executor "after" config.hooks.after
  pure written

/-! ## What can be asked for -/

/-- Generate modules. -/
def generate (executor : Executor) (options : Options) : Session (List String) := do
  let config <- Session.view (configure options)
  run executor config

/-- The line of a dry run for a module. -/
def sizeLine (entry : Module) : String :=
  Text.padRight 12 entry.kind.fileName ++ " " ++
    Text.padLeft 8 (toString entry.text.utf8ByteSize) ++ " bytes"

/-- Show the modules that would be written.  No hook is run and no file is written. -/
def dryRun (executor : Executor) (options : Options) : Session (List String) := do
  let config <- Session.view (configure options)
  let modules <- compile executor config
  pure (modules.map sizeLine)

/-- List the operations of the document. -/
def inspect (options : Options) : Session (List String) :=
  Session.view (fun files => do
    let config <- configure options files
    let document <- readDocument config files
    pure (Inspection.lines document))

end Project
end OpenApiTypes
