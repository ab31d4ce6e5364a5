import OpenApiTypes.Modules.EndpointTemplates
import OpenApiTypes.Project.Failure
import OpenApiTypes.Toml.Reading

namespace OpenApiTypes
namespace Project

/-!
# The configuration of a project

The configuration says where the document and the modules are, how endpoints are
rendered, and which commands format sources and run around generation.  It is written
in TOML; everything in it may be left out, and only the generator settings may hold
names that are not known.
-/

/-- The commands around generation. -/
structure Hooks where
  /-- Run before the document is read. -/
  before : Option (List String) := none
  /-- Run after every module was written. -/
  after : Option (List String) := none
deriving DecidableEq, Inhabited

/-- The configuration of a project. -/
structure Config where
  /-- The path of the document. -/
  input : Option String := none
  /-- The directory that receives the modules. -/
  output : Option String := none
  /-- The TypeScript files in the output directory are removed before modules are
  written. -/
  cleansOutput : Bool := false
  settings : Settings := {}
  /-- The templates of the endpoints module, which is generated only with them. -/
  endpoints : Option Modules.EndpointTemplates := none
  /-- The command that reads sources and writes them formatted. -/
  formatter : Option (List String) := none
  hooks : Hooks := {}
deriving DecidableEq, Inhabited

namespace Config

open Reading

/-! ## Reading -/

/-- A command: a program with its arguments. -/
def command : Reader (Option (List String)) :=
  optional (list string)

/-- Endpoint templates as a record. -/
def templatesShape : Shape Modules.EndpointTemplates where
  name := "Endpoints"
  strict := true
  ignoresSurplus := Toml.dialect.ignoresSurplus
  fields := [
    ⟨"each", true, fun value templates => do
      pure { templates with each := <- optional string value }⟩,
    ⟨"module", true, fun value templates => do
      pure { templates with module := <- optional string value }⟩]

/-- Hooks as a record. -/
def hooksShape : Shape Hooks where
  name := "Hooks"
  strict := true
  ignoresSurplus := Toml.dialect.ignoresSurplus
  fields := [
    ⟨"before", true, fun value hooks => do
      pure { hooks with before := <- command value }⟩,
    ⟨"after", true, fun value hooks => do
      pure { hooks with after := <- command value }⟩]

/-- The configuration as a record. -/
def shape : Shape Config where
  name := "Config"
  strict := true
  ignoresSurplus := Toml.dialect.ignoresSurplus
  fields := [
    ⟨"input-doc", true, fun value config => do
      pure { config with input := <- optional string value }⟩,
    ⟨"output-dir", true, fun value config => do
      pure { config with output := <- optional string value }⟩,
    ⟨"clean-output", true, fun value config => do
      pure { config with cleansOutput := <- boolean value }⟩,
    ⟨"generator", true, fun value config => do
      pure { config with settings := <- Settings.read Toml.dialect value }⟩,
    ⟨"endpoints", true, fun value config => do
      pure { config with endpoints := <- optional (templatesShape.reader {}) value }⟩,
    ⟨"formatter", true, fun value config => do
      pure { config with formatter := <- command value }⟩,
    ⟨"hooks", true, fun value config => do
      pure { config with hooks := <- hooksShape.reader {} value }⟩]

/-- Read the members of a configuration; none when the text is no configuration. -/
def read? (text : String) : Option Config :=
  (Toml.read? text).bind (fun value => (shape.reader {} value).toOption)

/-- Read a configuration.  Its generator settings must be valid. -/
def ofText (text : String) : Except RunFailure Config :=
  match read? text with
  | none => .error .configUnreadable
  | some config =>
      match config.settings.validate with
      | .error problem => .error (.generation (.invalidSettings problem))
      | .ok () => .ok config

end Config
end Project
end OpenApiTypes
