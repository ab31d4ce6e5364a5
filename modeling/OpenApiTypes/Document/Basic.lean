import OpenApiTypes.Registry
import OpenApiTypes.Schema.Basic
import OpenApiTypes.Text.Order

namespace OpenApiTypes

/-!
# Documents

The part of an API description that types are made from: paths with their operations,
the parameters, request bodies and responses of operations, and the components that
references point to.
-/

/-- A definition in place, or a reference to one. -/
inductive Referable (Definition : Type) where
  | reference (target : String)
  | inline (definition : Definition)
deriving Inhabited

/-- The definition, when it stands in place. -/
def Referable.inline? {Definition : Type} : Referable Definition -> Option Definition
  | .reference _ => none
  | .inline definition => some definition

/-- The methods of operations. -/
inductive Method where
  | delete
  | get
  | head
  | options
  | patch
  | post
  | put
  | trace
deriving DecidableEq, Inhabited

namespace Method

/-- Every method, in the order in which the operations of a path are visited. -/
def all : List Method := [.delete, .get, .head, .options, .patch, .post, .put, .trace]

/-- The name of a method in a path item. -/
def name : Method -> String
  | .delete => "delete"
  | .get => "get"
  | .head => "head"
  | .options => "options"
  | .patch => "patch"
  | .post => "post"
  | .put => "put"
  | .trace => "trace"

/-- No method is left out. -/
theorem mem_all (method : Method) : method ∈ all := by
  cases method <;> decide

end Method

/-- Where a parameter is carried. -/
inductive Location where
  | path
  | query
  | header
  | cookie
deriving DecidableEq, Inhabited

/-- A parameter of an operation. -/
structure Parameter where
  name : String
  location : Location
  required : Bool
  schema : Option Schema
deriving Inhabited

/-- One representation of a body. -/
structure MediaType where
  schema : Option Schema
deriving Inhabited

/-- The representations of a body by media type. -/
abbrev Content := Registry MediaType

/-- A request body. -/
structure RequestBody where
  required : Bool
  content : Content
deriving Inhabited

/-- A response. -/
structure Response where
  content : Content
deriving Inhabited

/-- One method of one path. -/
structure Operation where
  operationId : Option String
  parameters : Option (List (Referable Parameter))
  requestBody : Option RequestBody
  responses : Registry Response
deriving Inhabited

/-- The operations of one path, and the parameters that they share. -/
structure PathItem where
  parameters : Option (List (Referable Parameter)) := none
  delete : Option Operation := none
  get : Option Operation := none
  head : Option Operation := none
  options : Option Operation := none
  patch : Option Operation := none
  post : Option Operation := none
  put : Option Operation := none
  trace : Option Operation := none
deriving Inhabited

/-- The definitions that references point to. -/
structure Components where
  schemas : Registry Schema
  parameters : Registry Parameter
  pathItems : Registry (Referable PathItem)
deriving Inhabited

/-- An API description. -/
structure Document where
  paths : Registry (Referable PathItem)
  components : Option Components
deriving Inhabited

/-! ## Bodies -/

namespace Content

/-- The media type of JSON bodies. -/
def jsonMediaType : String := "application/json"

/-- The media type of raw octets. -/
def binaryMediaType : String := "application/octet-stream"

/-- The schema of a representation. -/
def schema? (content : Content) (mediaType : String) : Option Schema :=
  (content.get? mediaType).bind MediaType.schema

/-- The schema of the JSON representation. -/
def jsonSchema? (content : Content) : Option Schema :=
  schema? content jsonMediaType

/-- Whether the body is declared to be raw octets. -/
def isBinary (content : Content) : Bool :=
  match schema? content binaryMediaType with
  | some schema => schema.isBinary
  | none => false

end Content

/-! ## Operations -/

namespace PathItem

/-- The operation of a method. -/
def operation? (item : PathItem) : Method -> Option Operation
  | .delete => item.delete
  | .get => item.get
  | .head => item.head
  | .options => item.options
  | .patch => item.patch
  | .post => item.post
  | .put => item.put
  | .trace => item.trace

/-- The declared operations, in the order of the methods. -/
def operations (item : PathItem) : List (Method × Operation) :=
  Method.all.filterMap (fun method =>
    (item.operation? method).map (fun operation => (method, operation)))

/-- Change every declared operation. -/
def mapOperations (change : Operation -> Operation) (item : PathItem) : PathItem :=
  { item with
    delete := item.delete.map change
    get := item.get.map change
    head := item.head.map change
    options := item.options.map change
    patch := item.patch.map change
    post := item.post.map change
    put := item.put.map change
    trace := item.trace.map change }

/-- A changed item has the changed operation of each method. -/
@[simp] theorem operation?_mapOperations (change : Operation -> Operation) (item : PathItem)
    (method : Method) :
    (item.mapOperations change).operation? method = (item.operation? method).map change := by
  cases method <;> rfl

/-- Changing operations keeps the shared parameters. -/
@[simp] theorem parameters_mapOperations (change : Operation -> Operation) (item : PathItem) :
    (item.mapOperations change).parameters = item.parameters := rfl

end PathItem

namespace Operation

/-- The parameters that stand in place and are carried at a location, in declaration
order.  Parameters that are still references are left out. -/
def parametersAt (operation : Operation) (location : Location) : List Parameter :=
  ((operation.parameters.getD []).filterMap Referable.inline?).filter
    (fun parameter => parameter.location == location)

/-- The only response status whose body is typed. -/
def successStatus : String := "200"

/-- The response whose body is typed. -/
def successResponse? (operation : Operation) : Option Response :=
  operation.responses.get? successStatus

end Operation

/-- An operation with the method and the path that it is declared under. -/
structure Endpoint where
  method : Method
  path : String
  operation : Operation
deriving Inhabited

namespace Document

/-- The operations of every path item that stands in place: paths in declaration order,
and the operations of a path in the order of the methods. -/
def endpoints (document : Document) : List Endpoint :=
  document.paths.entries.flatMap (fun entry =>
    match entry.2.inline? with
    | none => []
    | some item => item.operations.map (fun declared => ⟨declared.1, entry.1, declared.2⟩))

/-- The operations ordered by path; those of one path keep the order of the methods. -/
def sortedEndpoints (document : Document) : List Endpoint :=
  Text.sortOn Endpoint.path document.endpoints

/-- The component schemas, when there are components. -/
def schemas? (document : Document) : Option (Registry Schema) :=
  document.components.map Components.schemas

end Document
end OpenApiTypes
