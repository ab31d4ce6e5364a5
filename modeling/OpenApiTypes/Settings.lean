import OpenApiTypes.Naming
import OpenApiTypes.Reading.Reader

namespace OpenApiTypes

/-!
# Generator settings

The settings that every generator shares: the aliases under which modules import each
other, the type that stands for unrecognized schemas, and the header of each module.
-/

/-- The type that stands for a schema of no recognized form. -/
inductive Fallback where
  /-- The type of every value. -/
  | unknown
  /-- The type of no value. -/
  | never
deriving DecidableEq, Inhabited

/-- The spelling of a fallback type. -/
def Fallback.text : Fallback -> String
  | .unknown => "unknown"
  | .never => "never"

/-- The aliases under which sibling modules are imported. -/
structure Aliases where
  schemas : String := "s"
  params : String := "p"
deriving DecidableEq, Inhabited

/-- The settings shared by the generators. -/
structure Settings where
  aliases : Aliases := {}
  fallback : Fallback := .unknown
  moduleHeader : String :=
    "/* This file has been automatically generated */\n/* eslint-disable */"
deriving DecidableEq, Inhabited

/-- Why settings are refused. -/
inductive Settings.Problem where
  | invalidAlias (name : String)
  | sharedAlias (name : String)
deriving DecidableEq

/-- How a problem is reported. -/
def Settings.Problem.message : Settings.Problem -> String
  | .invalidAlias name => "Namespace alias '" ++ name ++ "' is not a valid identifier"
  | .sharedAlias name => "Namespace alias '" ++ name ++ "' is used for both schemas and params"

/-- Both aliases must be identifiers, and they must differ. -/
def Settings.validate (settings : Settings) : Except Settings.Problem Unit :=
  let aliases := settings.aliases
  if !Naming.isIdentifier aliases.schemas then .error (.invalidAlias aliases.schemas)
  else if !Naming.isIdentifier aliases.params then .error (.invalidAlias aliases.params)
  else if aliases.schemas = aliases.params then .error (.sharedAlias aliases.schemas)
  else .ok ()

/-! ## Reading -/

open Reading

/-- Aliases as a record; what is missing keeps its default. -/
def Aliases.shape (dialect : Dialect) : Shape Aliases where
  name := "NamespaceAliases"
  ignoresSurplus := dialect.ignoresSurplus
  fields := [
    ⟨"schemas", true, fun value aliases => do
      pure { aliases with schemas := <- string value }⟩,
    ⟨"params", true, fun value aliases => do
      pure { aliases with params := <- string value }⟩]

/-- Settings as a record; what is missing keeps its default. -/
def Settings.shape (dialect : Dialect) : Shape Settings where
  name := "GeneratorConfig"
  ignoresSurplus := dialect.ignoresSurplus
  fields := [
    ⟨"namespaces", true, fun value settings => do
      pure { settings with aliases := <- (Aliases.shape dialect).reader {} value }⟩,
    ⟨"fallback-type", true, fun value settings => do
      let fallback <- variant dialect [("unknown", Fallback.unknown), ("never", .never)] value
      pure { settings with fallback }⟩,
    ⟨"module-header", true, fun value settings => do
      pure { settings with moduleHeader := <- string value }⟩]

/-- Read settings. -/
def Settings.read (dialect : Dialect) : Reader Settings :=
  (Settings.shape dialect).reader {}

end OpenApiTypes
