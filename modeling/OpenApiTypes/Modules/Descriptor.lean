import OpenApiTypes.Modules.PathType
import OpenApiTypes.Modules.Schemas

namespace OpenApiTypes
namespace Modules

/-!
# Endpoint descriptors

A descriptor holds what a renderer needs to know about one operation.  It decides the
types and leaves the written form to the renderer.
-/

/-- What a renderer is told about an operation. -/
structure Descriptor where
  method : String
  path : String
  operationId : Option String
  /-- The literal type of the path. -/
  pathType : String
  /-- The name of the parameters type, or the empty object type. -/
  paramsType : String
  /-- There is a query parameter. -/
  paramsExpected : Bool
  /-- There is a required query parameter. -/
  paramsRequired : Bool
  requestType : String
  responseType : String
  /-- A request body is declared. -/
  bodyExpected : Bool
  /-- The successful response carries a typed body. -/
  bodyReturned : Bool
deriving DecidableEq, Inhabited

/-- Which sibling modules are generated. -/
structure Siblings where
  schemas : Bool
  params : Bool
deriving DecidableEq, Inhabited

/-- The type of a body of raw octets. -/
def binaryBodyType : String := "Blob"

/-- The type of a body: none declared, JSON, raw octets, or some other representation. -/
def bodyType (context : TypeScript.TypeContext) : Option Content -> String
  | none => "never"
  | some content =>
      match content.jsonSchema? with
      | some schema => TypeScript.typeText context schema
      | none => if content.isBinary then binaryBodyType else "unknown"

/-- Whether a body has a type of its own. -/
def isTyped (content : Content) : Bool :=
  content.jsonSchema?.isSome || content.isBinary

/-- Whether the successful response of an operation carries a typed body. -/
def returnsBody (operation : Operation) : Bool :=
  operation.successResponse?.any (fun response => isTyped response.content)

/-- The type of the path parameter of a name.  A later declaration replaces an earlier
one, so that of an operation replaces a shared one. -/
def pathParameterType? (context : TypeScript.TypeContext) (operation : Operation)
    (name : String) : Option String :=
  ((operation.parametersAt .path).reverse.find? (fun parameter => parameter.name == name)).map
    (fun parameter => TypeScript.typeText context (parameter.schema.getD .unknown))

/-- The name of the parameters type as the endpoints module writes it. -/
def paramsTypeReference (settings : Settings) (endpoint : Endpoint) : String :=
  settings.aliases.params ++ "." ++ Naming.paramsTypeName endpoint.method.name endpoint.path

/-- The descriptor of an operation. -/
def descriptor (settings : Settings) (siblings : Siblings) (endpoint : Endpoint) : Descriptor :=
  let context := siblingContext settings siblings.schemas
  let operation := endpoint.operation
  let query := operation.parametersAt .query
  { method := endpoint.method.name
    path := endpoint.path
    operationId := operation.operationId
    pathType := pathType (pathParameterType? context operation) endpoint.path
    paramsType := if query.isEmpty then "\x7b\x7d" else paramsTypeReference settings endpoint
    paramsExpected := !query.isEmpty
    paramsRequired := query.any Parameter.required
    requestType := bodyType context (operation.requestBody.map RequestBody.content)
    responseType := bodyType context (operation.successResponse?.map Response.content)
    bodyExpected := operation.requestBody.isSome
    bodyReturned := returnsBody operation }

/-- The descriptors of a document, ordered by path; those of one path keep the order of
the methods. -/
def descriptors (settings : Settings) (siblings : Siblings) (document : Document) :
    List Descriptor :=
  document.sortedEndpoints.map (descriptor settings siblings)

end Modules
end OpenApiTypes
