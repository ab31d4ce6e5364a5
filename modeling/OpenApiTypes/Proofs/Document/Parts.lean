import OpenApiTypes.Document.Source
import OpenApiTypes.Proofs.Reading.Agreement
import OpenApiTypes.Proofs.Schema.KeywordReading

namespace OpenApiTypes
namespace Document

open Reading
open Schema (Keyword Keywords readKeywords readSchemaList readPropertyMap)

/-!
# The parts of a document

Every value that is read as a part of a document stands in another part: under a name of a
record, as an entry of a registry or as an item of a list.  The parts and these steps are
listed here, down to the subschemas of schemas, so that a statement about a value anywhere
in a document is proved once for each way of standing in a part.

A record may also be written as the sequence of its members.  Then a step goes by the index
instead of the name.
-/

/-- What a value in a document is read as. -/
inductive Part where
  | document
  | components
  | pathItem
  | operation
  | parameter
  | listedParameter
  | requestBody
  | response
  | mediaType
  | schema
  /-- The component schemas. -/
  | schemas
  /-- The component parameters. -/
  | parameters
  /-- The paths, and the component path items. -/
  | pathItems
  | responses
  | content
  | properties
  | parameterList
  | schemaList
deriving DecidableEq

namespace Part

/-- What reading a part gives. -/
abbrev Result : Part -> Type
  | .document => Document
  | .components => Components
  | .pathItem => Referable PathItem
  | .operation => Operation
  | .parameter => Parameter
  | .listedParameter => Referable Parameter
  | .requestBody => RequestBody
  | .response => Response
  | .mediaType => MediaType
  | .schema => Keywords
  | .schemas => Registry Schema
  | .parameters => Registry Parameter
  | .pathItems => Registry (Referable PathItem)
  | .responses => Registry Response
  | .content => Content
  | .properties => List Schema.Property
  | .parameterList => List (Referable Parameter)
  | .schemaList => List Schema

/-- How a part is read. -/
def reader : (part : Part) -> Reader part.Result
  | .document => readNormalized
  | .components => readComponents
  | .pathItem => referable readPathItem
  | .operation => readOperation
  | .parameter => readParameter
  | .listedParameter => referable readParameter
  | .requestBody => readRequestBody
  | .response => readResponse
  | .mediaType => readMediaType
  | .schema => readKeywords
  | .schemas => registry Schema.read
  | .parameters => registry readParameter
  | .pathItems => registry (referable readPathItem)
  | .responses => registry readResponse
  | .content => registry readMediaType
  | .properties => readPropertyMap
  | .parameterList => list (referable readParameter)
  | .schemaList => readSchemaList

/-! ## Steps -/

/-- The part under a keyword of a schema. -/
def ofKeyword : Keyword -> Option Part
  | .oneOf => some .schemaList
  | .allOf => some .schemaList
  | .anyOf => some .schemaList
  | .properties => some .properties
  | .additionalProperties => some .schema
  | .items => some .schema
  | _ => none

/-- The members of a record in declaration order, each with the part that it holds. -/
def fields : Part -> List (String × Option Part)
  | .document => [("paths", some .pathItems), ("components", some .components)]
  | .components => [("schemas", some .schemas), ("parameters", some .parameters),
      ("pathItems", some .pathItems)]
  | .pathItem => ("parameters", some .parameterList) ::
      Method.all.map (fun method => (method.name, some .operation))
  | .operation => [("operationId", none), ("parameters", some .parameterList),
      ("requestBody", some .requestBody), ("responses", some .responses)]
  | .parameter => [("name", none), ("in", none), ("required", none), ("schema", some .schema)]
  | .listedParameter =>
      [("name", none), ("in", none), ("required", none), ("schema", some .schema)]
  | .requestBody => [("required", none), ("content", some .content)]
  | .response => [("content", some .content)]
  | .mediaType => [("schema", some .schema)]
  | .schema => Keyword.spellings.map (fun entry => (entry.1, ofKeyword entry.2))
  | _ => []

/-- What the entries of a registry are. -/
def entry? : Part -> Option Part
  | .schemas => some .schema
  | .parameters => some .parameter
  | .pathItems => some .pathItem
  | .responses => some .response
  | .content => some .mediaType
  | .properties => some .schema
  | _ => none

/-- What the items of a list are. -/
def item? : Part -> Option Part
  | .parameterList => some .listedParameter
  | .schemaList => some .schema
  | _ => none

/-- The part under a name of an object. -/
def member? (part : Part) (name : String) : Option Part :=
  part.entry?.or (part.fields.lookup name).join

/-- The part at an index of an array. -/
def element? (part : Part) (index : Nat) : Option Part :=
  part.item?.or (part.fields[index]?.bind Prod.snd)

/-! ## Values that are read alike -/

/-- Two objects or arrays give the same result when they are read as the part, or neither
can be read. -/
structure Alike (part : Part) (one other : Json) : Prop where
  one_isComposite : one.isComposite = true
  other_isComposite : other.isComposite = true
  agree : Agree (part.reader one) (part.reader other)

/-- A reader that takes values that are alike as a part to the same result. -/
def Respects {Result : Type} (part : Part) (reader : Reader Result) : Prop :=
  forall one other : Json, part.Alike one other -> Agree (reader one) (reader other)

variable {part inner : Part} {Result Other Draft : Type}

theorem respects_reader (part : Part) : part.Respects part.reader :=
  fun _ _ alike => alike.agree

namespace Respects

theorem map {reader : Reader Result} (respects : part.Respects reader) (change : Result -> Other) :
    part.Respects (fun value => (reader value).map change) :=
  fun one other alike => (respects one other alike).map change

theorem optional {reader : Reader Result} (respects : part.Respects reader) :
    part.Respects (optional reader) := by
  intro one other alike
  rw [optional_of_isComposite reader alike.one_isComposite,
    optional_of_isComposite reader alike.other_isComposite]
  exact (respects one other alike).map some

end Respects

theorem respects_schema : Part.schema.Respects Schema.read :=
  (respects_reader .schema).map Keywords.toSchema

/-! ## Records -/

/-- A field of a record whose member holds a part, if it holds one. -/
structure Holds (field : Reading.Field Draft) (member : String × Option Part) : Prop where
  name : field.name = member.1
  agree : forall part : Part, member.2 = some part -> forall one other : Json,
    part.Alike one other -> forall draft : Draft, Agree (field.read one draft) (field.read other draft)

namespace Holds

theorem nothing (field : Reading.Field Draft) : Holds field (field.name, none) :=
  ⟨rfl, nofun⟩

theorem of_respects {reader : Reader Result} (respects : inner.Respects reader) {name : String}
    {defaulted : Bool} {keep : Draft -> Result -> Draft} :
    Holds ⟨name, defaulted, fun value draft => do pure (keep draft (<- reader value))⟩
      (name, some inner) := by
  refine ⟨rfl, ?_⟩
  rintro _ ⟨⟩ one other alike draft
  exact (respects one other alike).bind (fun result => .refl _)

end Holds

variable {shape : Shape Draft} {members : List (String × Option Part)}

private theorem find?_of_holds {fields : List (Reading.Field Draft)}
    (holds : List.Forall₂ Holds fields members) {name : String} {field : Reading.Field Draft}
    (found : fields.find? (fun candidate => candidate.name == name) = some field) :
    Exists fun held : Option Part => members.lookup name = some held ∧ Holds field (name, held) := by
  induction holds with
  | nil => cases found
  | @cons first member fields members head _ inductionHypothesis =>
      rcases member with ⟨spelling, held⟩
      rw [List.find?_cons] at found
      by_cases same : spelling = name
      · subst same
        rw [beq_iff_eq.mpr head.name] at found
        cases found
        exact ⟨held, by simp, head⟩
      · have apart : (first.name == name) = false := by
          rw [head.name]
          exact beq_eq_false_iff_ne.mpr same
        have different : (name == spelling) = false := beq_eq_false_iff_ne.mpr (Ne.symm same)
        rw [apart] at found
        rw [List.lookup_cons, different]
        exact inductionHypothesis found

/-- A reader of records takes values that differ in one member, or in one element, to the same
result when what stands there is alike as the part that is held there. -/
structure ReadsRecord (members : List (String × Option Part)) (reader : Reader Result) : Prop where
  member : forall {name : String} {inner : Part} {one other : Json},
    (members.lookup name).join = some inner -> inner.Alike one other ->
      forall before after : Json.Members,
        Agree (reader (.object (before ++ (name, one) :: after)))
          (reader (.object (before ++ (name, other) :: after)))
  element : forall {before : List Json} {inner : Part} {one other : Json},
    members[before.length]?.bind Prod.snd = some inner -> inner.Alike one other ->
      forall after : List Json,
        Agree (reader (.array (before ++ one :: after))) (reader (.array (before ++ other :: after)))

namespace ReadsRecord

/-- A record whose fields hold the parts. -/
theorem of_holds (holds : List.Forall₂ Holds shape.fields members) (draft : Draft) :
    ReadsRecord members (shape.reader draft) := by
  constructor
  · intro name inner one other step alike before after
    refine Shape.agree_readMembers ?_ before after draft
    intro field found
    rcases find?_of_holds holds found with ⟨held, listed, fieldHolds⟩
    rw [listed] at step
    exact fieldHolds.agree inner step one other alike
  · intro before inner one other step alike after
    rw [Shape.reader, Shape.reader, List.length_append, List.length_append, List.length_cons,
      List.length_cons]
    refine Shape.agree_readElements ?_ after _ 0 draft
    intro field found
    rcases List.getElem?_eq_some_iff.mp found with ⟨bound, rfl⟩
    have sameLength := holds.length_eq
    have listed : members[before.length]? = some members[before.length] :=
      List.getElem?_eq_getElem (sameLength ▸ bound)
    rw [listed] at step
    have fieldHolds := (List.forall₂_iff_get.mp holds).2 before.length bound (sameLength ▸ bound)
    exact fieldHolds.agree inner step one other alike

theorem bind {reader : Reader Result} (reads : ReadsRecord members reader)
    (next : Result -> Except Error Other) :
    ReadsRecord members (fun value => reader value >>= next) :=
  ⟨fun step alike before after =>
      (reads.member step alike before after).bind (fun result => .refl (next result)),
    fun step alike after => (reads.element step alike after).bind (fun result => .refl (next result))⟩

/-- References are records that hold no part. -/
theorem readReference (apart : members.lookup "$ref" = none) :
    ReadsRecord members readReference := by
  refine bind ⟨?_, ?_⟩ _
  · intro name inner one other step alike before after
    refine Shape.agree_readMembers ?_ before after _
    intro field found
    have named : "$ref" = name := by
      have same := List.find?_some found
      rw [List.mem_singleton.mp (List.mem_of_find?_eq_some found)] at same
      exact beq_iff_eq.mp same
    rw [← named, apart] at step
    cases step
  · intro before inner one other step alike after
    rw [Shape.reader, Shape.reader, List.length_append, List.length_append, List.length_cons,
      List.length_cons]
    refine Shape.agree_readElements ?_ after _ 0 _
    intro field found draft
    have text : Agree (string one) (string other) := by
      have composite (value : Json) (given : value.isComposite = true) :
          (string value).toOption = none := by
        cases value with
        | array items => rfl
        | object members => rfl
        | _ => cases given
      rw [Agree, composite one alike.one_isComposite, composite other alike.other_isComposite]
    rw [List.mem_singleton.mp (List.mem_of_getElem? found)]
    exact text.bind (fun target => .refl _)

theorem referable {Definition : Type} {reader : Reader Definition}
    (reads : ReadsRecord members reader) (apart : members.lookup "$ref" = none) :
    ReadsRecord members (referable reader) :=
  ⟨fun step alike before after => agree_either "RefOr"
      (((readReference apart).member step alike before after).map Referable.reference)
      ((reads.member step alike before after).map Referable.inline),
    fun step alike after => agree_either "RefOr"
      (((readReference apart).element step alike after).map Referable.reference)
      ((reads.element step alike after).map Referable.inline)⟩

/-- Without held parts there is nothing to say. -/
theorem of_none (reader : Reader Result) : ReadsRecord [] reader :=
  ⟨nofun, nofun⟩

end ReadsRecord

/-! ## The records of a document -/

private theorem respects_parameters : Part.parameterList.Respects readParameters :=
  (respects_reader .parameterList).optional

private theorem readsRecord_parameter : ReadsRecord parameter.fields readParameter := by
  have fields : List.Forall₂ Holds parameterShape.fields parameter.fields :=
    .cons (.nothing _) <| .cons (.nothing _) <| .cons (.nothing _) <| .cons
      (.of_respects respects_schema.optional) .nil
  exact .bind (.of_holds fields {}) _

private theorem readsRecord_pathItem : ReadsRecord pathItem.fields readPathItem := by
  have operations : List.Forall₂ Holds
      (Method.all.map (fun method => (⟨method.name, false, fun value item => do
        pure (withOperation item method (<- optional readOperation value))⟩ :
          Reading.Field PathItem)))
      (Method.all.map (fun method => (method.name, some .operation))) := by
    rw [List.forall₂_map_left_iff, List.forall₂_map_right_iff, List.forall₂_same]
    intro method _
    exact .of_respects (respects_reader .operation).optional
  have fields : List.Forall₂ Holds pathItemShape.fields pathItem.fields :=
    .cons (.of_respects respects_parameters) operations
  exact .of_holds fields {}

/-- An object or an array says what further members are as a schema. -/
private theorem agree_readAdditional {value : Json} (composite : value.isComposite = true) :
    Agree (Schema.readAdditional value)
      ((readKeywords value).map (fun keywords => Schema.Additional.schema keywords.toSchema)) := by
  rw [Schema.readAdditional]
  · cases readKeywords value <;> rfl
  · rintro flag rfl
    cases composite

private theorem respects_keyword {keyword : Keyword} (holds : ofKeyword keyword = some inner) :
    inner.Respects keyword.read := by
  cases keyword with
  | oneOf | allOf | anyOf =>
      cases holds
      exact (respects_reader .schemaList).optional
  | properties =>
      cases holds
      exact (respects_reader .properties).optional
  | items =>
      cases holds
      exact respects_schema.optional
  | additionalProperties =>
      cases holds
      refine Respects.optional (fun one other alike => ?_)
      exact (agree_readAdditional alike.one_isComposite).trans
        ((alike.agree.map _).trans (agree_readAdditional alike.other_isComposite).symm)
  | _ => cases holds

private theorem readsRecord_schema : ReadsRecord schema.fields readKeywords := by
  have fields : List.Forall₂ Holds (Keyword.spellings.map Schema.keywordField)
      (Keyword.spellings.map (fun entry => (entry.1, ofKeyword entry.2))) := by
    rw [List.forall₂_map_left_iff, List.forall₂_map_right_iff, List.forall₂_same]
    intro entry _
    refine ⟨rfl, fun inner holds one other alike keywords => ?_⟩
    exact (respects_keyword holds one other alike).map (keywords.set entry.2)
  rw [Schema.readKeywords_eq_reader]
  exact .of_holds fields _

/-- Parts that are records are read as such. -/
theorem readsRecord (part : Part) : ReadsRecord part.fields part.reader := by
  cases part with
  | document =>
      exact .of_holds (.cons (.of_respects (respects_reader .pathItems)) <|
        .cons (.of_respects (respects_reader .components).optional) .nil) _
  | components =>
      exact .of_holds (.cons (.of_respects (respects_reader .schemas)) <|
        .cons (.of_respects (respects_reader .parameters)) <|
        .cons (.of_respects (respects_reader .pathItems)) .nil) _
  | pathItem => exact readsRecord_pathItem.referable (by decide)
  | operation =>
      exact .of_holds (.cons (.nothing _) <| .cons (.of_respects respects_parameters) <|
        .cons (.of_respects (respects_reader .requestBody).optional) <|
        .cons (.of_respects (respects_reader .responses)) .nil) _
  | parameter => exact readsRecord_parameter
  | listedParameter => exact readsRecord_parameter.referable (by decide)
  | requestBody =>
      exact .of_holds (.cons (.nothing _) <|
        .cons (.of_respects (respects_reader .content)) .nil) _
  | response => exact .of_holds (.cons (.of_respects (respects_reader .content)) .nil) _
  | mediaType => exact .of_holds (.cons (.of_respects respects_schema.optional) .nil) _
  | schema => exact readsRecord_schema
  | _ => exact .of_none _

/-! ## Steps keep values alike -/

variable {one other : Json} {name : String}

private theorem agree_readSchemas {before after : List Json}
    (agree : Agree (readKeywords one) (readKeywords other)) :
    Agree (Schema.readSchemas (before ++ one :: after))
      (Schema.readSchemas (before ++ other :: after)) := by
  induction before with
  | nil => exact agree.bind (fun keywords => .refl _)
  | cons value rest inductionHypothesis =>
      exact (Agree.refl (readKeywords value)).bind
        (fun keywords => inductionHypothesis.bind (fun others => .refl _))

private theorem agree_readProperties {before after : Json.Members}
    (agree : Agree (readKeywords one) (readKeywords other)) :
    Agree (Schema.readProperties (before ++ (name, one) :: after))
      (Schema.readProperties (before ++ (name, other) :: after)) := by
  induction before with
  | nil => exact agree.bind (fun keywords => .refl _)
  | cons member rest inductionHypothesis =>
      exact (Agree.refl (readKeywords member.2)).bind
        (fun keywords => inductionHypothesis.bind (fun others => .refl _))

/-- Objects that differ in one member are alike when what stands there is. -/
theorem alike_member (step : part.member? name = some inner) (alike : inner.Alike one other)
    (before after : Json.Members) :
    part.Alike (.object (before ++ (name, one) :: after))
      (.object (before ++ (name, other) :: after)) := by
  refine ⟨rfl, rfl, ?_⟩
  cases entry : part.entry? with
  | none =>
      rw [member?, entry, Option.none_or] at step
      exact part.readsRecord.member step alike before after
  | some entries =>
      rw [member?, entry, Option.some_or] at step
      cases step
      cases part with
      | schemas =>
          cases entry
          exact agree_registry (respects_schema one other alike) name before after
      | parameters | pathItems | responses | content =>
          cases entry
          exact agree_registry alike.agree name before after
      | properties =>
          cases entry
          exact agree_readProperties alike.agree
      | _ => cases entry

/-- Arrays that differ in one element are alike when what stands there is. -/
theorem alike_element {before : List Json} (step : part.element? before.length = some inner)
    (alike : inner.Alike one other) (after : List Json) :
    part.Alike (.array (before ++ one :: after)) (.array (before ++ other :: after)) := by
  refine ⟨rfl, rfl, ?_⟩
  cases item : part.item? with
  | none =>
      rw [element?, item, Option.none_or] at step
      exact part.readsRecord.element step alike after
  | some items =>
      rw [element?, item, Option.some_or] at step
      cases step
      cases part with
      | parameterList =>
          cases item
          exact agree_list alike.agree before after
      | schemaList =>
          cases item
          exact agree_readSchemas alike.agree
      | _ => cases item

end Part
end Document
end OpenApiTypes
