import OpenApiTypes.Document.SelfContained
import OpenApiTypes.Modules.Endpoints
import OpenApiTypes.Modules.Params

namespace OpenApiTypes
namespace Modules

/-!
# Generating modules

A module exists when there is something to declare in it, and the index exists when any
other module does.  All bodies are made before the first one is formatted, and every
failure abandons the whole generation.
-/

/-- A module before it is formatted. -/
structure Body where
  kind : ModuleKind
  text : String
deriving DecidableEq, Inhabited

/-- The body of the index: the other modules ordered by name. -/
def indexBody (kinds : List ModuleKind) : String :=
  String.intercalate "\n" ((Text.sortOn ModuleKind.name kinds).map ModuleKind.reexport)

/-- The index of the bodies, when there are any. -/
def withIndex (bodies : List Body) : List Body :=
  match bodies with
  | [] => []
  | _ => bodies ++ [⟨.index, indexBody (bodies.map Body.kind)⟩]

/-- The body of a kind, when there is one. -/
def bodyOf (kind : ModuleKind) (text : Option String) : List Body :=
  (text.map (Body.mk kind)).toList

/-- The bodies of the modules of a document, in the order of generation. -/
def bodies (settings : Settings) (renderer : Option Renderer) (document : Document) :
    Except Failure (List Body) := do
  match settings.validate with
  | .error problem => throw (.invalidSettings problem)
  | .ok () => pure ()
  let ready := document.selfContained
  let schemas := schemasBody? settings ready
  let params := paramsBody? settings schemas.isSome ready
  let endpoints <- match renderer with
    | none => pure none
    | some renderer => endpointsBody? settings renderer ⟨schemas.isSome, params.isSome⟩ ready
  pure (withIndex
    (bodyOf .schemas schemas ++ bodyOf .params params ++ bodyOf .endpoints endpoints))

/-- A module: the header above the formatted body. -/
def Body.finish (settings : Settings) (body : Body) (formatted : String) : Module :=
  ⟨body.kind, settings.moduleHeader ++ "\n\n" ++ formatted⟩

/-- Format bodies one after the other. -/
def formatBodies {Effect : Type -> Type} [Monad Effect] (settings : Settings)
    (format : String -> Effect String) (bodies : List Body) : Effect (List Module) :=
  bodies.mapM (fun body => do
    let formatted <- format body.text
    pure (body.finish settings formatted))

/-- Generate the modules of a document. -/
def generate (settings : Settings) (renderer : Option Renderer)
    (format : String -> Except Failure String) (document : Document) :
    Except Failure (List Module) := do
  let made <- bodies settings renderer document
  formatBodies settings format made

end Modules
end OpenApiTypes
