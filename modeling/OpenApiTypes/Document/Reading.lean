import OpenApiTypes.Document.Basic
import OpenApiTypes.Schema.Keywords
import OpenApiTypes.Schema.Normal

namespace OpenApiTypes
namespace Document

/-!
# Reading documents

Each part of a document is a record.  The drafts of records that have no required
member are the records themselves; a parameter must have a name and a location, so its
draft may lack them.
-/

open Reading

/-- The draft of a reference. -/
structure ReferenceDraft where
  target : Option String := none

/-- A reference: a record with the target under `$ref`. -/
def readReference : Reader String := fun value => do
  let shape : Shape ReferenceDraft :=
    { name := "Reference", fields := [
      ⟨"$ref", false, fun target _ => do
        pure ⟨some (<- string target)⟩⟩] }
  let draft <- shape.reader {} value
  required "$ref" draft.target

/-- Read a reference, or else a definition. -/
def referable {Definition : Type} (reader : Reader Definition) :
    Reader (Referable Definition) :=
  either "RefOr" (fun value => (readReference value).map .reference)
    (fun value => (reader value).map .inline)

/-- Read where a parameter is carried. -/
def readLocation : Reader Location :=
  variant .json
    [("path", .path), ("query", .query), ("header", .header), ("cookie", .cookie)]

/-- The draft of a parameter. -/
structure ParameterDraft where
  name : Option String := none
  location : Option Location := none
  required : Bool := false
  schema : Option Schema := none

/-- A parameter as a record. -/
def parameterShape : Shape ParameterDraft where
  name := "Parameter"
  fields := [
    ⟨"name", false, fun value draft => do
      pure { draft with name := some (<- string value) }⟩,
    ⟨"in", false, fun value draft => do
      pure { draft with location := some (<- readLocation value) }⟩,
    ⟨"required", true, fun value draft => do
      pure { draft with required := <- boolean value }⟩,
    ⟨"schema", false, fun value draft => do
      pure { draft with schema := <- optional Schema.read value }⟩]

/-- Read a parameter. -/
def readParameter : Reader Parameter := fun value => do
  let draft <- parameterShape.reader {} value
  let name <- required "name" draft.name
  let location <- required "in" draft.location
  pure ⟨name, location, draft.required, draft.schema⟩

/-- Read one representation of a body. -/
def readMediaType : Reader MediaType :=
  Shape.reader { name := "MediaType", fields := [
    ⟨"schema", false, fun value _ => do
      pure ⟨<- optional Schema.read value⟩⟩] } ⟨none⟩

/-- Read a request body. -/
def readRequestBody : Reader RequestBody :=
  Shape.reader { name := "RequestBody", fields := [
    ⟨"required", true, fun value body => do
      pure { body with required := <- boolean value }⟩,
    ⟨"content", true, fun value body => do
      pure { body with content := <- registry readMediaType value }⟩] }
    ⟨false, .empty⟩

/-- Read a response. -/
def readResponse : Reader Response :=
  Shape.reader { name := "Response", fields := [
    ⟨"content", true, fun value _ => do
      pure ⟨<- registry readMediaType value⟩⟩] } ⟨.empty⟩

/-- Read a list of parameters, each in place or by reference. -/
def readParameters : Reader (Option (List (Referable Parameter))) :=
  optional (list (referable readParameter))

/-- Read an operation. -/
def readOperation : Reader Operation :=
  Shape.reader { name := "Operation", fields := [
    ⟨"operationId", false, fun value operation => do
      pure { operation with operationId := <- optional string value }⟩,
    ⟨"parameters", false, fun value operation => do
      pure { operation with parameters := <- readParameters value }⟩,
    ⟨"requestBody", false, fun value operation => do
      pure { operation with requestBody := <- optional readRequestBody value }⟩,
    ⟨"responses", true, fun value operation => do
      pure { operation with responses := <- registry readResponse value }⟩] }
    ⟨none, none, none, .empty⟩

/-- A path item with the operation of a method replaced. -/
def withOperation (item : PathItem) (method : Method)
    (operation : Option Operation) : PathItem :=
  match method with
  | .delete => { item with delete := operation }
  | .get => { item with get := operation }
  | .head => { item with head := operation }
  | .options => { item with options := operation }
  | .patch => { item with patch := operation }
  | .post => { item with post := operation }
  | .put => { item with put := operation }
  | .trace => { item with trace := operation }

/-- A path item as a record: the shared parameters, then one member for each method. -/
def pathItemShape : Shape PathItem where
  name := "PathItem"
  fields :=
    ⟨"parameters", false, fun value item => do
      pure { item with parameters := <- readParameters value }⟩ ::
    Method.all.map (fun method => ⟨method.name, false, fun value item => do
      pure (withOperation item method (<- optional readOperation value))⟩)

/-- Read a path item. -/
def readPathItem : Reader PathItem := pathItemShape.reader {}

/-- Read the components. -/
def readComponents : Reader Components :=
  Shape.reader { name := "Components", fields := [
    ⟨"schemas", true, fun value components => do
      pure { components with schemas := <- registry Schema.read value }⟩,
    ⟨"parameters", true, fun value components => do
      pure { components with parameters := <- registry readParameter value }⟩,
    ⟨"pathItems", true, fun value components => do
      pure { components with pathItems := <- registry (referable readPathItem) value }⟩] }
    ⟨.empty, .empty, .empty⟩

/-- Read a document whose schemas are in the dialect that the keywords know. -/
def readNormalized : Reader Document :=
  Shape.reader { name := "Document", fields := [
    ⟨"paths", true, fun value document => do
      pure { document with paths := <- registry (referable readPathItem) value }⟩,
    ⟨"components", true, fun value document => do
      pure { document with components := <- optional readComponents value }⟩] }
    ⟨.empty, none⟩

/-- Read a document: bring its schemas into one dialect, then read the records. -/
def ofJson (value : Json) : Except Error Document :=
  readNormalized (Schema.normalizeDocument value)

end Document
end OpenApiTypes
