import OpenApiTypes.Modules.Endpoints
import OpenApiTypes.Template.Render
import OpenApiTypes.Template.Source

namespace OpenApiTypes
namespace Modules

/-!
# Rendering endpoints with templates

One template writes an endpoint and sees the members of its descriptor; another writes
the module and sees the rendered endpoints as `content`.  Either may be left out for a
built-in one that lists the endpoints in an interface.
-/

/-- The source texts of the two templates. -/
structure EndpointTemplates where
  each : Option String := none
  module : Option String := none
deriving DecidableEq, Inhabited

/-- The built-in template of one endpoint. -/
def builtInEach : String :=
  "\t'\x7b\x7b method \x7d\x7d \x7b\x7b path \x7d\x7d': \x7b path: \x7b\x7b pathType \x7d\x7d; " ++
  "params: \x7b\x7b paramsType \x7d\x7d; request: \x7b\x7b requestType \x7d\x7d; " ++
  "response: \x7b\x7b responseType \x7d\x7d; \x7d;"

/-- The built-in template of the module. -/
def builtInModule : String :=
  "export interface Endpoints \x7b\n\x7b\x7b content \x7d\x7d\n\x7d"

/-- The bindings of one endpoint. -/
def Descriptor.bindings (endpoint : Descriptor) : Template.Bindings := [
  ("method", .string endpoint.method),
  ("path", .string endpoint.path),
  ("operationId", (endpoint.operationId.map Json.string).getD .null),
  ("pathType", .string endpoint.pathType),
  ("paramsType", .string endpoint.paramsType),
  ("paramsExpected", .boolean endpoint.paramsExpected),
  ("paramsRequired", .boolean endpoint.paramsRequired),
  ("requestType", .string endpoint.requestType),
  ("responseType", .string endpoint.responseType),
  ("bodyExpected", .boolean endpoint.bodyExpected),
  ("bodyReturned", .boolean endpoint.bodyReturned)]

/-- Read the template of a role. -/
def parseTemplate (role : TemplateRole) (source : String) :
    Except Failure (List Template.Node) :=
  match Template.parse? source with
  | some nodes => .ok nodes
  | none => .error (.invalidTemplate role)

/-- The renderer that two templates make.  Both are read before anything is rendered. -/
def templateRenderer (templates : EndpointTemplates) : Except Failure Renderer := do
  let each <- parseTemplate .endpoint (templates.each.getD builtInEach)
  let module <- parseTemplate .module (templates.module.getD builtInModule)
  pure {
    endpoint := fun endpoint =>
      (Template.render TemplateRole.endpoint.name each endpoint.bindings).mapError
        (.endpointNotRendered endpoint.method endpoint.path)
    module := fun content =>
      (Template.render TemplateRole.module.name module [("content", .string content)]).mapError
        .moduleNotRendered }

end Modules
end OpenApiTypes
