namespace OpenApiTypes

/-!
# The generated modules

There are four modules at most.  Their order is that of generation; the index stands
last because it re-exports the others.
-/

/-- The modules that are generated. -/
inductive ModuleKind where
  /-- One alias for each component schema. -/
  | schemas
  /-- One object type for each operation with query parameters. -/
  | params
  /-- What the renderer makes of the operations. -/
  | endpoints
  /-- Re-exports of the other modules. -/
  | index
deriving DecidableEq, Inhabited

namespace ModuleKind

/-- Every kind, in the order of generation. -/
def all : List ModuleKind := [.schemas, .params, .endpoints, .index]

/-- The name under which a module is imported. -/
def name : ModuleKind -> String
  | .schemas => "schemas"
  | .params => "params"
  | .endpoints => "endpoints"
  | .index => "index"

/-- The name of the file that holds a module. -/
def fileName (kind : ModuleKind) : String :=
  kind.name ++ ".ts"

/-- The import of a sibling module under an alias. -/
def namespaceImport (kind : ModuleKind) (name : String) : String :=
  "import * as " ++ name ++ " from './" ++ kind.name ++ "';"

/-- The line of the index that re-exports a module. -/
def reexport (kind : ModuleKind) : String :=
  "export * from './" ++ kind.name ++ "';"

end ModuleKind

/-- A generated module: its kind with its text. -/
structure Module where
  kind : ModuleKind
  text : String
deriving DecidableEq, Inhabited

end OpenApiTypes
