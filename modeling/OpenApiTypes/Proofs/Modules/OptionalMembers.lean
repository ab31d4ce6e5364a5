import OpenApiTypes.Proofs.Modules.WrittenTypes
import OpenApiTypes.Proofs.Schema.Nullability
import OpenApiTypes.Proofs.Schema.Sources

namespace OpenApiTypes

/-!
# Null in the members of optional parameters

A parameter that may be left out may also be null, and its schema may admit null on its own
account: by a flag, by the older flag, or by null among its types.  The form of a schema is
never one that admits null, and null is put around the form at most once, so in a schema that
is read there is no null around a null.  The member of an optional parameter is therefore
written with one null around the rest of its schema, and what the schema says about null makes
no difference.
-/

/-! ## Null around a schema -/

namespace Schema

/-- Whether a schema is another one or null. -/
def isNullable : Schema -> Bool
  | .nullable _ => true
  | _ => false

/-- A schema without the null around it. -/
def withoutNull : Schema -> Schema
  | .nullable inner => inner
  | schema => schema

/-- Making a schema nullable puts null around the rest of it. -/
theorem toNullable_eq (schema : Schema) : schema.toNullable = .nullable schema.withoutNull := by
  cases schema <;> rfl

theorem withoutNull_eq_self {schema : Schema} (plain : schema.isNullable = false) :
    schema.withoutNull = schema := by
  cases schema with
  | nullable inner => cases plain
  | _ => rfl

/-- Below the null around a schema there is no second one. -/
def HasNullOnce (schema : Schema) : Prop :=
  schema.withoutNull.isNullable = false

theorem hasNullOnce_of_plain {schema : Schema} (plain : schema.isNullable = false) :
    schema.HasNullOnce := by
  rw [HasNullOnce, withoutNull_eq_self plain]
  exact plain

namespace Keywords

variable (keywords : Keywords)

theorem isNullable_typedForm (type : String) : (keywords.typedForm type).isNullable = false := by
  unfold typedForm
  split
  next => rfl
  next => split <;> rfl
  next =>
    split
    next => split <;> rfl
    next => split <;> rfl

/-- Nullability stands outside every form. -/
theorem isNullable_form (types : List String) : (keywords.form types).isNullable = false := by
  unfold form
  split
  next => rfl
  next => rfl
  next => rfl
  next => rfl
  next =>
    split
    next => split <;> rfl
    next type => exact keywords.isNullable_typedForm type
    next => rfl

/-- What is left without the null around it is the form. -/
theorem withoutNull_toSchema :
    keywords.toSchema.withoutNull = keywords.form keywords.effectiveTypes := by
  unfold toSchema
  dsimp only
  split
  next => rfl
  next => exact withoutNull_eq_self (keywords.isNullable_form _)

theorem hasNullOnce_toSchema : keywords.toSchema.HasNullOnce := by
  rw [HasNullOnce, withoutNull_toSchema]
  exact keywords.isNullable_form _

/-- The flag and the types are nothing to the form for given types. -/
theorem form_set_nullable_types (flag : Option Bool) (stated : Option (List String))
    (types : List String) :
    ((keywords.set .nullable flag).set .types stated).form types = keywords.form types := rfl

end Keywords

/-- Nowhere in a schema that is read from a value stands null around a null. -/
theorem hasNullOnce_of_read {value : Json} {schema : Schema}
    (read : Schema.read value = .ok schema) : schema.Everywhere HasNullOnce := by
  refine @everywhere_of_read (fun _ => True) HasNullOnce (fun _ _ _ _ => trivial) ?_ value trivial
    schema read
  intro value keywords _ _
  exact ⟨fun type => hasNullOnce_of_plain (keywords.isNullable_typedForm type),
    hasNullOnce_of_plain (keywords.isNullable_form _), keywords.hasNullOnce_toSchema⟩

/-! ## Objects that differ in what they say about null -/

variable {members others : Json.Members}

/-- The types other than null that a type is written with. -/
def otherTypes (type : Json) : List String :=
  (typeNames type).filter (fun name => name != "null")

/-- Two objects that differ at most in what they say about null: in the flags, or in null
among other types. -/
structure DifferInNull (members others : Json.Members) : Prop where
  elsewhere : ∀ name ∉ ["x-nullable", "nullable", "type"],
    others.find? name = members.find? name
  types : others.find? "type" = members.find? "type" ∨
    ∃ type ∈ members.find? "type", ∃ other ∈ others.find? "type",
      otherTypes other = otherTypes type ∧ otherTypes type ≠ []

/-- The types that an object states are gathered. -/
theorem getD_types_of_stated {region : Document.Region}
    (data : region.member "type" = .inside .data) (distinct : (members.map Prod.fst).Nodup)
    {keywords : Keywords} (read : readKeywords (region.normalize (.object members)) = .ok keywords)
    {type : Json} (stated : members.find? "type" = some type) :
    keywords.types.getD [] = typeNames type := by
  have name : Keyword.types.name = "type" := rfl
  have spelled : region.spelled members .types = type := by
    rw [Document.Region.spelled, Json.Members.value, name, stated, Option.some_or,
      Option.getD_some, ite_self]
  have here := (region.readKeywords_normalize_iff distinct keywords).mp read .types
  rw [spelled, name, data, Document.Region.normalize_data] at here
  exact getD_of_read_types here

section Gathered

variable {region : Document.Region} (differ : DifferInNull members others)
  (distinct : (members.map Prod.fst).Nodup) (othersDistinct : (others.map Prod.fst).Nodup)
  {keywords gathered : Keywords}
  (read : readKeywords (region.normalize (.object members)) = .ok keywords)
  (othersRead : readKeywords (region.normalize (.object others)) = .ok gathered)

include differ distinct othersDistinct read othersRead

/-- What is spelled alike is gathered alike. -/
theorem DifferInNull.get_eq {keyword : Keyword}
    (found : others.find? keyword.name = members.find? keyword.name)
    (flag : keyword ≠ .nullable) : gathered.get keyword = keywords.get keyword := by
  have spelled : region.spelled others keyword = region.spelled members keyword := by
    refine region.spelled_congr found (implied_congr ?_ ?_)
    · intro named
      exact absurd (Keyword.name_injective named : keyword = .nullable) flag
    · intro _
      exact differ.elsewhere "const" (by decide)
  have here := (region.readKeywords_normalize_iff distinct keywords).mp read keyword
  have there := (region.readKeywords_normalize_iff othersDistinct gathered).mp othersRead keyword
  rw [spelled, here] at there
  exact (Except.ok.inj there).symm

/-- All keywords but the flag and the types hold the same. -/
theorem DifferInNull.gathered_eq :
    gathered = (keywords.set .nullable gathered.nullable).set .types gathered.types := by
  apply Keywords.eq_of_get
  intro keyword
  by_cases types : keyword = .types
  · subst types
    exact (Keywords.get_set ..).symm
  by_cases flag : keyword = .nullable
  · subst flag
    exact ((Keywords.get_set_of_ne _ (by decide) _).trans (Keywords.get_set ..)).symm
  have apart : keyword.name ∉ ["x-nullable", "nullable", "type"] := by
    cases keyword <;> first | decide | exact absurd rfl flag | exact absurd rfl types
  rw [Keywords.get_set_of_ne _ types, Keywords.get_set_of_ne _ flag]
  exact differ.get_eq distinct othersDistinct read othersRead (differ.elsewhere _ apart) flag

/-- The types that decide the form are the same. -/
theorem DifferInNull.effectiveTypes_eq (data : region.member "type" = .inside .data) :
    gathered.effectiveTypes = keywords.effectiveTypes := by
  rcases differ.types with same | ⟨type, found, other, othersFound, same, given⟩
  · have types : gathered.get .types = keywords.get .types :=
      differ.get_eq distinct othersDistinct read othersRead same (by decide)
    change gathered.types = keywords.types at types
    rw [Keywords.effectiveTypes, types, Keywords.effectiveTypes]
  · have here := getD_types_of_stated data distinct read found
    have there := getD_types_of_stated data othersDistinct othersRead othersFound
    rw [Keywords.effectiveTypes_eq (congrArg _ here) given]
    exact Keywords.effectiveTypes_eq ((congrArg _ there).trans same) given

end Gathered

/-- Without the null around them, the schemas of two such objects are one. -/
theorem DifferInNull.withoutNull_eq (region : Document.Region)
    (data : region.member "type" = .inside .data) (differ : DifferInNull members others)
    (distinct : (members.map Prod.fst).Nodup) (othersDistinct : (others.map Prod.fst).Nodup)
    {schema other : Schema} (read : Schema.read (region.normalize (.object members)) = .ok schema)
    (othersRead : Schema.read (region.normalize (.object others)) = .ok other) :
    other.withoutNull = schema.withoutNull := by
  rcases (read_eq_ok_iff ..).mp read with ⟨keywords, here, rfl⟩
  rcases (read_eq_ok_iff ..).mp othersRead with ⟨gathered, there, rfl⟩
  rw [Keywords.withoutNull_toSchema, Keywords.withoutNull_toSchema,
    differ.effectiveTypes_eq distinct othersDistinct here there data,
    differ.gathered_eq distinct othersDistinct here there, Keywords.form_set_nullable_types]

end Schema

namespace Modules

/-! ## The members of optional parameters -/

/-- The member of an optional parameter: the key, and the type of its schema with one null. -/
def optionalText (context : TypeScript.TypeContext) (name : String) (schema : Schema) : String :=
  Naming.parameterKey name ++ "?: (" ++ TypeScript.typeText context schema.withoutNull ++
    " | null);"

theorem text_queryMember_of_optional (context : TypeScript.TypeContext) {parameter : Parameter}
    (optional : parameter.required = false) :
    (queryMember parameter).text context =
      optionalText context parameter.name (parameter.schema.getD .unknown) := by
  have notRequired : (queryMember parameter).required = false := optional
  have opening : "?: (" = "?: " ++ "(" := rfl
  have closing : " | null);" = " | null)" ++ ";" := rfl
  rw [QueryMember.text, if_neg (Bool.eq_false_iff.mp notRequired), Schema.toNullable_eq,
    Schema.typeText_nullable, optionalText, opening, closing]
  simp only [String.append_assoc]
  rfl

/-- The member of each query parameter stands in the parameters module. -/
theorem occurs_queryMember_paramsBody (settings : Settings) (schemasGenerated : Bool)
    (document : Document) {endpoint : Endpoint} (listed : endpoint ∈ document.endpoints)
    {parameter : Parameter} (declared : parameter ∈ endpoint.operation.parametersAt .query) :
    Exists fun body : String =>
      paramsBody? settings schemasGenerated document = some body ∧
        Text.Occurs
          ((queryMember parameter).text (siblingContext settings schemasGenerated)) body := by
  rcases occurs_ownAlias_paramsBody settings schemasGenerated document listed
    (hasQuery_of_mem declared) with ⟨body, made, written⟩
  rw [QueryMember.text_eq_line]
  exact ⟨body, made, (occurs_queryMember_ownAlias _ declared).trans written⟩

/-- What a schema that is read from a value says about null, and what an optional parameter
makes of it. -/
structure NullOnce (value : Json) (schema : Schema) : Prop where
  /-- Nowhere in the schema stands null around a null. -/
  once : schema.Everywhere (fun part => part.withoutNull.isNullable = false)
  /-- The member of an optional parameter has one null around the rest of the schema. -/
  member : forall (context : TypeScript.TypeContext) (parameter : Parameter),
    parameter.schema = some schema -> parameter.required = false ->
      (queryMember parameter).text context = optionalText context parameter.name schema
  /-- The member stands in the parameters module. -/
  written : forall (settings : Settings) (document : Document),
    ∀ endpoint ∈ document.endpoints, ∀ parameter ∈ endpoint.operation.parametersAt .query,
      parameter.schema = some schema -> parameter.required = false ->
        Exists fun body : String =>
          paramsBody? settings (hasSchemas settings document) document = some body ∧
            Text.Occurs (optionalText (contextIn settings document .params) parameter.name schema)
              body
  /-- It is the same whatever an object says about null, as it stands or normalized. -/
  same : ∀ prepare ∈ [id, Schema.normalize],
    forall (members others : Json.Members) (other : Schema),
      value = prepare (.object members) ->
        (members.map Prod.fst).Nodup -> (others.map Prod.fst).Nodup ->
          Schema.DifferInNull members others ->
            Schema.read (prepare (.object others)) = .ok other ->
              forall (context : TypeScript.TypeContext) (name : String),
                optionalText context name other = optionalText context name schema

/-- In a schema that is read there is at most one null around another schema, so the member of
an optional parameter has exactly one, and it is the same whether or not the schema admits
null itself. -/
theorem optional_null_once {value : Json} {schema : Schema}
    (read : Schema.read value = .ok schema) : NullOnce value schema where
  once := Schema.hasNullOnce_of_read read
  member := by
    intro context parameter given optional
    rw [text_queryMember_of_optional context optional, given, Option.getD_some]
  written := by
    intro settings document endpoint listed parameter declared given optional
    rcases occurs_queryMember_paramsBody settings (hasSchemas settings document) document listed
      declared with ⟨body, made, occurs⟩
    rw [text_queryMember_of_optional _ optional, given, Option.getD_some] at occurs
    exact ⟨body, made, occurs⟩
  same := by
    intro prepare listed members others other made distinct othersDistinct differ othersRead
      context name
    subst made
    have rest : other.withoutNull = schema.withoutNull := by
      rcases List.mem_pair.mp listed with rfl | rfl
      · refine differ.withoutNull_eq (.inside .data) rfl distinct othersDistinct ?_ ?_
        · rw [Document.Region.normalize_data]
          exact read
        · rw [Document.Region.normalize_data]
          exact othersRead
      · exact differ.withoutNull_eq (.inside .schema) rfl distinct othersDistinct read
          othersRead
    rw [optionalText, rest, optionalText]

/-- An object with a note that may be null. -/
def noteMembers : Json.Members := [
  ("type", .string "object"),
  ("properties", .object [("note", .object [("nullable", .boolean true),
    ("type", .array [.string "string", .string "null"])])])]

/-- The same object, or null: by the flag, and by null among its types. -/
def nullableNoteMembers : Json.Members := [
  ("nullable", .boolean true),
  ("type", .array [.string "null", .string "object"]),
  ("properties", .object [("note", .object [("nullable", .boolean true),
    ("type", .array [.string "string", .string "null"])])])]

/-- The schema of the object. -/
def noteSchema : Schema :=
  .object [⟨"note", false, .nullable (.primitive .string none)⟩]

theorem differInNull_noteMembers : Schema.DifferInNull noteMembers nullableNoteMembers where
  elsewhere := by
    intro name apart
    have flag : name ≠ "nullable" := by
      rintro rfl
      exact apart (by decide)
    have type : name ≠ "type" := by
      rintro rfl
      exact apart (by decide)
    have unflagged := Json.Members.find?_amid_of_ne flag [] nullableNoteMembers.tail (.boolean true)
    have untyped (value : Json) :=
      Json.Members.find?_amid_of_ne type [] noteMembers.tail value
    exact unflagged.trans ((untyped _).trans (untyped _).symm)
  types := .inr ⟨_, rfl, _, rfl, by decide, by decide⟩

/-- Both objects are read, and make one member of an optional parameter. -/
theorem null_once_noteMembers :
    NullOnce (.object nullableNoteMembers) (.nullable noteSchema) ∧
      NullOnce (.object noteMembers) noteSchema ∧
      forall (context : TypeScript.TypeContext) (name : String),
        optionalText context name (.nullable noteSchema) =
          optionalText context name noteSchema := by
  have once : NullOnce (.object noteMembers) noteSchema := optional_null_once rfl
  exact ⟨optional_null_once rfl, once,
    once.same id List.mem_cons_self noteMembers nullableNoteMembers _ rfl (by decide) (by decide)
      differInNull_noteMembers rfl⟩

end Modules
end OpenApiTypes
