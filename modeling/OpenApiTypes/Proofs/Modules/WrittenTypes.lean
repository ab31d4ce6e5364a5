import OpenApiTypes.Modules.Generation
import OpenApiTypes.Proofs.Modules.ParamsNames
import OpenApiTypes.Proofs.Text.Occurrence
import OpenApiTypes.Proofs.TypeScript.References

namespace OpenApiTypes

/-!
# The types that modules are written from

The schemas module writes the types of the component schemas, the parameters module those
of the query parameters, and a descriptor those of the path parameters in its path, of the
JSON request body and of the JSON response.  Inside the schemas module names stand alone;
elsewhere they are qualified as soon as there is a schemas module to qualify them with.
-/

/-! ## Component schemas -/

/-- The component schemas with their names; none without components. -/
def Document.componentSchemas (document : Document) : List (String × Schema) :=
  match document.schemas? with
  | none => []
  | some schemas => schemas.entries

/-- Whether a component schema has a name. -/
def Document.declaresSchema (document : Document) (name : String) : Bool :=
  (document.componentSchemas.map Prod.fst).contains name

/-! ## Path parameters -/

/-- The parameter fits an expression: it is carried in the path, under the name. -/
def Parameter.Fits (parameter : Parameter) (name : String) : Prop :=
  parameter.location = .path ∧ parameter.name = name

/-- The parameter is the last one that fits an expression. -/
def DeclaresLast (declarations : List Parameter) (name : String) (parameter : Parameter) : Prop :=
  parameter.Fits name ∧
    Exists fun before : List Parameter => Exists fun after : List Parameter =>
      declarations = before ++ parameter :: after ∧ ∀ later ∈ after, ¬later.Fits name

/-- The search for a path parameter among all declarations. -/
def lastDeclaration? (declarations : List Parameter) (name : String) : Option Parameter :=
  (declarations.filter (fun parameter => parameter.location == .path)).reverse.find?
    (fun parameter => parameter.name == name)

theorem lastDeclaration?_eq_some_iff (declarations : List Parameter) (name : String)
    (parameter : Parameter) :
    lastDeclaration? declarations name = some parameter ↔
      DeclaresLast declarations name parameter := by
  rw [lastDeclaration?, ← List.filter_reverse, List.find?_filter, List.find?_eq_some_iff_append]
  simp only [beq_iff_eq, decide_eq_true_eq, Bool.not_eq_true', decide_eq_false_iff_not]
  refine and_congr_right fun _ => ?_
  constructor
  · rintro ⟨later, earlier, reversed, unfit⟩
    refine ⟨earlier.reverse, later.reverse, ?_, fun other listed =>
      unfit other (List.mem_reverse.mp listed)⟩
    rw [← List.reverse_reverse declarations, reversed, List.reverse_append, List.reverse_cons,
      List.append_assoc, List.singleton_append]
  · rintro ⟨before, after, rfl, unfit⟩
    refine ⟨after.reverse, before.reverse, ?_, fun other listed =>
      unfit other (List.mem_reverse.mp listed)⟩
    rw [List.reverse_append, List.reverse_cons, List.append_assoc, List.singleton_append]

theorem lastDeclaration?_eq_none_iff (declarations : List Parameter) (name : String) :
    lastDeclaration? declarations name = none ↔
      ∀ parameter ∈ declarations, ¬parameter.Fits name := by
  rw [lastDeclaration?, ← List.filter_reverse, List.find?_filter, List.find?_eq_none]
  simp only [List.mem_reverse, beq_iff_eq, decide_eq_true_eq]
  rfl

/-- The last declaration of the later list is the last one of both. -/
theorem DeclaresLast.append_left {own : List Parameter} {name : String} {parameter : Parameter}
    (last : DeclaresLast own name parameter) (shared : List Parameter) :
    DeclaresLast (shared ++ own) name parameter := by
  rcases last with ⟨fits, before, after, rfl, unfit⟩
  exact ⟨fits, shared ++ before, after, (List.append_assoc ..).symm, unfit⟩

namespace Operation

/-- The parameters that an operation declares in place. -/
def inPlace (operation : Operation) : List Parameter :=
  (operation.parameters.getD []).filterMap Referable.inline?

/-- The parameter that a name in the path stands for: the last one that is declared. -/
def pathParameter? (operation : Operation) (name : String) : Option Parameter :=
  lastDeclaration? operation.inPlace name

end Operation

namespace Modules

/-! ## The schemas -/

/-- The schema that a member of a parameters type is written from. -/
def QueryMember.written (entry : QueryMember) : Schema :=
  if entry.required then entry.schema else entry.schema.toNullable

/-- The schemas of the query parameters of an operation. -/
def querySchemas (endpoint : Endpoint) : List Schema :=
  (endpoint.operation.parametersAt .query).map (fun parameter => (queryMember parameter).written)

/-- The schemas of the path parameters that the path of an operation names. -/
def pathSchemas (endpoint : Endpoint) : List Schema :=
  (pathSegments endpoint.path).filterMap (fun segment =>
    (segmentParameter? segment).bind (fun name =>
      (endpoint.operation.pathParameter? (String.ofList name)).map (fun parameter =>
        parameter.schema.getD .unknown)))

/-- The schema of the JSON request body. -/
def requestSchema? (endpoint : Endpoint) : Option Schema :=
  (endpoint.operation.requestBody.map RequestBody.content).bind Content.jsonSchema?

/-- The schema of the JSON body of the successful response. -/
def responseSchema? (endpoint : Endpoint) : Option Schema :=
  (endpoint.operation.successResponse?.map Response.content).bind Content.jsonSchema?

/-- The schemas whose types are written in a module. -/
def schemasIn (document : Document) : ModuleKind -> List Schema
  | .schemas => document.componentSchemas.map Prod.snd
  | .params => document.endpoints.flatMap querySchemas
  | .endpoints => document.endpoints.flatMap (fun endpoint =>
      pathSchemas endpoint ++ (requestSchema? endpoint).toList ++
        (responseSchema? endpoint).toList)
  | .index => []

/-! ## Their types -/

/-- Whether there is a schemas module. -/
def hasSchemas (settings : Settings) (document : Document) : Bool :=
  (schemasBody? settings document).isSome

/-- What the types in a module depend on. -/
def contextIn (settings : Settings) (document : Document) : ModuleKind -> TypeScript.TypeContext
  | .schemas => localContext settings
  | _ => siblingContext settings (hasSchemas settings document)

/-- The type of a schema as a module writes it. -/
def typeIn (settings : Settings) (document : Document) (kind : ModuleKind) (schema : Schema) :
    TypeScript.TypeExpr :=
  TypeScript.synthesize (contextIn settings document kind) schema

/-- The schemas module declares each component schema and nothing else, in the order of
the names. -/
theorem schemasBody?_eq (settings : Settings) (document : Document) :
    schemasBody? settings document =
      if document.componentSchemas.isEmpty then none
      else some (String.intercalate "\n\n"
        ((Text.sortOn Prod.fst document.componentSchemas).map (fun entry =>
          "export type " ++ entry.1 ++ " = " ++
            (typeIn settings document .schemas entry.2).text ++ ";"))) := by
  unfold schemasBody? Document.componentSchemas
  cases document.schemas? with
  | none => rfl
  | some schemas => rfl

theorem hasSchemas_iff (settings : Settings) (document : Document) :
    hasSchemas settings document = true ↔ document.componentSchemas ≠ [] := by
  rw [hasSchemas, schemasBody?_eq]
  cases document.componentSchemas <;> simp

/-- Outside the schemas module a name that a component schema has is qualified. -/
theorem qualifier_contextIn_of_declaresSchema (settings : Settings) (document : Document)
    (kind : ModuleKind) {name : String} (declared : document.declaresSchema name) :
    (contextIn settings document kind).qualifier =
      if kind = .schemas then none else some settings.aliases.schemas := by
  have nonempty : document.componentSchemas ≠ [] := by
    intro empty
    rw [Document.declaresSchema, empty] at declared
    cases declared
  have present := (hasSchemas_iff settings document).mpr nonempty
  cases kind <;> simp [contextIn, localContext, siblingContext, present]

/-! ## Declarations -/

/-- A member as it is written: its key, a mark when it may be left out, and its type. -/
def QueryMember.line (context : TypeScript.TypeContext) (entry : QueryMember) : String :=
  entry.key ++ (if entry.required then ": " else "?: ") ++
    TypeScript.typeText context entry.written ++ ";"

theorem QueryMember.text_eq_line (context : TypeScript.TypeContext) (entry : QueryMember) :
    entry.text context = entry.line context := by
  unfold QueryMember.text QueryMember.line QueryMember.written
  cases entry.required <;> rfl

/-- A parameters type as it is declared. -/
def ParamsAlias.declaration (context : TypeScript.TypeContext) (declared : ParamsAlias) :
    String :=
  "export type " ++ declared.name ++ " = \x7b " ++
    String.intercalate " " (declared.entries.map (QueryMember.line context)) ++ " \x7d;"

theorem ParamsAlias.text_eq_declaration (context : TypeScript.TypeContext)
    (declared : ParamsAlias) : declared.text context = declared.declaration context := by
  have lines : QueryMember.text context = QueryMember.line context :=
    funext (QueryMember.text_eq_line context)
  have opening : " = \x7b " = " = " ++ "\x7b " := rfl
  have closing : " \x7d;" = " \x7d" ++ ";" := rfl
  delta ParamsAlias.text aliasText ParamsAlias.declaration
  rw [lines, opening, closing]
  simp only [String.append_assoc]

/-! ## Where they are written -/

/-- The type of a member is written from the schema of its parameter. -/
theorem occurs_text_queryMember (context : TypeScript.TypeContext) (entry : QueryMember) :
    Text.Occurs (TypeScript.typeText context entry.written) (entry.line context) :=
  ((Text.Occurs.refl _).append_left _).append_right _

/-- The members of the query parameters of an operation stand in its parameters type. -/
theorem occurs_queryMember_ownAlias (context : TypeScript.TypeContext) {endpoint : Endpoint}
    {parameter : Parameter} (declared : parameter ∈ endpoint.operation.parametersAt .query) :
    Text.Occurs ((queryMember parameter).line context)
      ((ownAlias endpoint).declaration context) := by
  have listed : queryMember parameter ∈ (ownAlias endpoint).entries :=
    (entries_ownAlias_perm endpoint).mem_iff.mpr (List.mem_map_of_mem declared)
  have written : Text.Occurs ((queryMember parameter).line context)
      (String.intercalate " " ((ownAlias endpoint).entries.map (QueryMember.line context))) :=
    Text.Occurs.intercalate (List.mem_map_of_mem listed) " "
  exact (written.append_left _).append_right _

/-- The types of the query parameters of an operation stand in its parameters type. -/
theorem occurs_text_ownAlias (context : TypeScript.TypeContext) {endpoint : Endpoint}
    {schema : Schema} (member : schema ∈ querySchemas endpoint) :
    Text.Occurs (TypeScript.typeText context schema) ((ownAlias endpoint).declaration context) := by
  rcases List.mem_map.mp member with ⟨parameter, declared, rfl⟩
  exact (occurs_text_queryMember context _).trans (occurs_queryMember_ownAlias context declared)

/-- An operation with a query parameter has a parameters type. -/
theorem hasQuery_of_mem {endpoint : Endpoint} {parameter : Parameter}
    (declared : parameter ∈ endpoint.operation.parametersAt .query) : endpoint.hasQuery := by
  unfold Endpoint.hasQuery
  cases listed : endpoint.operation.parametersAt .query with
  | nil => rw [listed] at declared; cases declared
  | cons first rest => rfl

/-- The parameters module declares the parameters type of each operation that has one. -/
theorem occurs_ownAlias_paramsBody (settings : Settings) (schemasGenerated : Bool)
    (document : Document) {endpoint : Endpoint} (member : endpoint ∈ document.endpoints)
    (query : endpoint.hasQuery) :
    Exists fun body : String =>
      paramsBody? settings schemasGenerated document = some body ∧
        Text.Occurs ((ownAlias endpoint).declaration (siblingContext settings schemasGenerated))
          body := by
  have listed : ownAlias endpoint ∈ paramsAliases document :=
    (paramsAliases_perm document).mem_iff.mpr
      (List.mem_map_of_mem (List.mem_filter.mpr ⟨member, query⟩))
  rw [← ParamsAlias.text_eq_declaration]
  unfold paramsBody?
  cases declared : paramsAliases document with
  | nil => rw [declared] at listed; cases listed
  | cons first rest =>
      refine ⟨_, rfl, Text.Occurs.intercalate (List.mem_append_right _ ?_) _⟩
      exact List.mem_map_of_mem (declared ▸ listed)

/-- The type of a path parameter in the path is interpolated in the type of the path. -/
theorem occurs_pathType (context : TypeScript.TypeContext) {endpoint : Endpoint}
    {schema : Schema} (member : schema ∈ pathSchemas endpoint) :
    Text.Occurs (TypeScript.typeText context schema)
      (pathType (pathParameterType? context endpoint.operation) endpoint.path) := by
  rcases List.mem_filterMap.mp member with ⟨segment, listed, found⟩
  rcases Option.bind_eq_some_iff.mp found with ⟨name, named, found⟩
  rcases Option.map_eq_some_iff.mp found with ⟨parameter, declared, rfl⟩
  have typed : pathParameterType? context endpoint.operation (String.ofList name) =
      some (TypeScript.typeText context (parameter.schema.getD .unknown)) := by
    exact congrArg (Option.map _) declared
  have interpolates :
      (pathSegments endpoint.path).any (fun segment => (segmentParameter? segment).isSome) :=
    List.any_eq_true.mpr ⟨segment, listed, by rw [named]; rfl⟩
  have inSegment : Text.Occurs (TypeScript.typeText context (parameter.schema.getD .unknown))
      (segmentText (pathParameterType? context endpoint.operation) segment) := by
    rw [segmentText, named]
    show Text.Occurs _ ("$\x7b" ++ (pathParameterType? context endpoint.operation
      (String.ofList name)).getD "never" ++ "\x7d")
    rw [typed]
    exact ((Text.Occurs.refl _).append_left _).append_right _
  have inSegments := inSegment.trans (Text.Occurs.intercalate (List.mem_map_of_mem
    (f := segmentText (pathParameterType? context endpoint.operation)) listed) "/")
  rw [pathType, if_pos interpolates]
  exact (inSegments.append_left _).append_right _

/-- The types of the schemas are written in full: those of the component schemas as
aliases of their names and nothing besides, those of query parameters in the parameters
module, those of path parameters in the type of the path, and those of bodies as the types
of the bodies. -/
structure TypesWritten (settings : Settings) (document : Document) : Prop where
  component : schemasBody? settings document =
    if document.componentSchemas.isEmpty then none
    else some (String.intercalate "\n\n"
      ((Text.sortOn Prod.fst document.componentSchemas).map (fun entry =>
        "export type " ++ entry.1 ++ " = " ++
          (typeIn settings document .schemas entry.2).text ++ ";")))
  query : ∀ endpoint ∈ document.endpoints, ∀ schema ∈ querySchemas endpoint,
    Exists fun body : String =>
      paramsBody? settings (hasSchemas settings document) document = some body ∧
        Text.Occurs (typeIn settings document .params schema).text body
  path : ∀ endpoint ∈ document.endpoints, ∀ schema ∈ pathSchemas endpoint,
    forall params : Bool,
      Text.Occurs (typeIn settings document .endpoints schema).text
        (descriptor settings ⟨hasSchemas settings document, params⟩ endpoint).pathType
  request : ∀ endpoint ∈ document.endpoints, ∀ schema ∈ requestSchema? endpoint,
    forall params : Bool,
      (descriptor settings ⟨hasSchemas settings document, params⟩ endpoint).requestType =
        (typeIn settings document .endpoints schema).text
  response : ∀ endpoint ∈ document.endpoints, ∀ schema ∈ responseSchema? endpoint,
    forall params : Bool,
      (descriptor settings ⟨hasSchemas settings document, params⟩ endpoint).responseType =
        (typeIn settings document .endpoints schema).text

theorem bodyType_of_jsonSchema? (context : TypeScript.TypeContext) {content : Option Content}
    {schema : Schema} (found : content.bind Content.jsonSchema? = some schema) :
    bodyType context content = TypeScript.typeText context schema := by
  rcases Option.bind_eq_some_iff.mp found with ⟨declared, rfl, isJson⟩
  rw [bodyType, isJson]

theorem typesWritten (settings : Settings) (document : Document) :
    TypesWritten settings document where
  component := schemasBody?_eq settings document
  query := by
    intro endpoint member schema inside
    rcases List.mem_map.mp inside with ⟨parameter, listed, _⟩
    have query := hasQuery_of_mem listed
    have declared :=
      occurs_ownAlias_paramsBody settings (hasSchemas settings document) document member query
    rcases declared with ⟨body, made, written⟩
    exact ⟨body, made, (occurs_text_ownAlias _ inside).trans written⟩
  path := by
    intro endpoint _ schema inside _
    exact occurs_pathType _ inside
  request := by
    intro endpoint _ schema found _
    exact bodyType_of_jsonSchema? _ found
  response := by
    intro endpoint _ schema found _
    exact bodyType_of_jsonSchema? _ found

end Modules
end OpenApiTypes
