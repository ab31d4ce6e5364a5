import OpenApiTypes.Document.SelfContained
import OpenApiTypes.Proofs.Modules.WrittenTypes
import OpenApiTypes.Proofs.Naming.TypeNames

namespace OpenApiTypes
namespace Modules

/-!
# Names that two modules declare

The index re-exports the schemas module and the parameters module, and each of them
chooses its names by itself: one takes those of the component schemas as they are, the
other makes its names from methods and paths.  Nothing compares them.  The main statement
here says which names can come out of both: those of component schemas that are called
like the parameters type of an operation.
-/

/-- The names that the schemas module declares. -/
def schemaNames (document : Document) : List String :=
  document.componentSchemas.map Prod.fst

/-- The names that the parameters module declares. -/
def paramsNames (document : Document) : List String :=
  (paramsAliases document).map ParamsAlias.name

/-- A line imports a module of the same directory under a name. -/
def IsImport (line : String) : Prop :=
  ∃ name file : String, line = "import * as " ++ name ++ " from './" ++ file ++ "';"

/-- A text exports types under some names, in this order and below imports, and holds
nothing else. -/
def Exports (text : String) (names : List String) : Prop :=
  ∃ (imports : List String) (types : List (String × String)),
    (∀ line ∈ imports, IsImport line) ∧
    types.map Prod.fst = names ∧
    text = String.intercalate "\n\n"
      (imports ++ types.map (fun declared =>
        "export type " ++ declared.1 ++ " = " ++ declared.2 ++ ";"))

theorem exports_map {Item : Type} {imports : List String}
    (areImports : ∀ line ∈ imports, IsImport line) (name type : Item -> String)
    (items : List Item) :
    Exports (String.intercalate "\n\n"
      (imports ++ items.map (fun item => aliasText (name item) (type item)))) (items.map name) := by
  refine ⟨imports, items.map (fun item => (name item, type item)), areImports, ?_, ?_⟩
  · rw [List.map_map]
    rfl
  · rw [List.map_map]
    rfl

/-- The schemas module exports the names of the component schemas. -/
theorem exports_schemasBody (settings : Settings) (document : Document) :
    ∀ body ∈ schemasBody? settings document,
      Exists fun names : List String =>
        names.Perm (schemaNames document) ∧ Exports body names := by
  intro body made
  rw [schemasBody?_eq, Option.mem_def] at made
  split at made
  next => cases made
  next =>
    cases made
    refine ⟨_, (Text.sortOn_perm Prod.fst _).map Prod.fst, ?_⟩
    have noImports : ∀ line ∈ ([] : List String), IsImport line := List.forall_mem_nil _
    exact exports_map noImports Prod.fst
      (fun entry => (typeIn settings document .schemas entry.2).text) _

/-- The parameters module exports the names of the parameters types. -/
theorem exports_paramsBody (settings : Settings) (schemasGenerated : Bool) (document : Document) :
    ∀ body ∈ paramsBody? settings schemasGenerated document,
      Exports body (paramsNames document) := by
  intro body made
  unfold paramsBody? at made
  split at made
  next => cases made
  next =>
    cases made
    refine exports_map ?_ ParamsAlias.name _ (paramsAliases document)
    intro line member
    split at member
    next => exact ⟨settings.aliases.schemas, "schemas", List.mem_singleton.mp member⟩
    next => cases member

/-! ## Repeated names -/

theorem mem_paramsNames_iff (document : Document) (name : String) :
    name ∈ paramsNames document ↔
      Exists fun endpoint : Endpoint =>
        endpoint ∈ document.endpoints ∧ endpoint.hasQuery ∧
          Naming.paramsTypeName endpoint.method.name endpoint.path = name := by
  rw [paramsNames, ((paramsAliases_perm document).map ParamsAlias.name).mem_iff, List.map_map]
  simp only [List.mem_map, List.mem_filter, and_assoc]
  rfl

/-- A name is declared in both modules exactly when it is that of a component schema and
that of the parameters type of an operation with query parameters. -/
theorem mem_both_iff (document : Document) (name : String) :
    name ∈ schemaNames document ∧ name ∈ paramsNames document ↔
      name ∈ schemaNames document ∧ Exists fun endpoint : Endpoint =>
        endpoint ∈ document.endpoints ∧ endpoint.hasQuery ∧
          name.toList = Text.capitalizeChars endpoint.method.name.toList ++
            Naming.capitalWords endpoint.path ++ "Params".toList := by
  rw [mem_paramsNames_iff]
  simp only [← Naming.toList_paramsTypeName, String.toList_inj, eq_comm]

/-- The names are disjoint exactly when no parameters type is called like a component
schema. -/
theorem disjoint_names_iff (document : Document) :
    (schemaNames document).Disjoint (paramsNames document) ↔
      ∀ endpoint ∈ document.endpoints, endpoint.hasQuery ->
        Naming.paramsTypeName endpoint.method.name endpoint.path ∉ schemaNames document := by
  constructor
  · intro disjoint endpoint member query shared
    exact disjoint shared ((mem_paramsNames_iff document _).mpr ⟨endpoint, member, query, rfl⟩)
  · intro separate name inSchemas inParams
    rcases (mem_paramsNames_iff document name).mp inParams with ⟨endpoint, member, query, rfl⟩
    exact separate endpoint member query inSchemas

/-! ## Which names can be repeated -/

/-- A path item with one operation. -/
def onlyOperation (operation : Operation) : Method -> PathItem
  | .delete => { delete := some operation }
  | .get => { get := some operation }
  | .head => { head := some operation }
  | .options => { options := some operation }
  | .patch => { patch := some operation }
  | .post => { post := some operation }
  | .put => { put := some operation }
  | .trace => { trace := some operation }

/-- An operation with a query parameter. -/
def pagedOperation : Operation :=
  ⟨none, some [.inline ⟨"page", .query, false, none⟩], none, .empty⟩

/-- A document with that operation under a path, and with one component schema. -/
def pagedDocument (method : Method) (path schema : String) : Document :=
  ⟨⟨[(path, .inline (onlyOperation pagedOperation method))], List.nodup_singleton _⟩,
    some ⟨⟨[(schema, .unknown)], List.nodup_singleton _⟩, .empty, .empty⟩⟩

theorem endpoints_pagedDocument (method : Method) (path schema : String) :
    (pagedDocument method path schema).selfContained.endpoints =
      [⟨method, path, pagedOperation⟩] := by
  cases method <;> rfl

/-- A component schema that is called like the parameters type of the operation is declared
in both modules. -/
theorem mem_both_pagedDocument (method : Method) (path : String) :
    let name := Naming.paramsTypeName method.name path
    name ∈ schemaNames (pagedDocument method path name).selfContained ∧
      name ∈ paramsNames (pagedDocument method path name).selfContained := by
  intro name
  refine ⟨List.mem_singleton_self _, (mem_paramsNames_iff _ _).mpr ?_⟩
  rw [endpoints_pagedDocument]
  exact ⟨_, List.mem_singleton_self _, rfl, rfl⟩

/-- The schemas module exports the names of the component schemas and the parameters module
those of the parameters types, so the index re-exports a name from both exactly when it is
the name of a component schema and consists of the capitalized method of an operation with
query parameters, the capitalized words of its path, and `Params`.  There is no such name
exactly when no parameters type is called like a component schema.  The names that some
document has in both modules are all those that consist of a capitalized method, a row of
word characters that does not begin with a small letter, and `Params`. -/
theorem repeatedNames_iff (settings : Settings) :
    (forall document : Document,
      (∀ body ∈ schemasBody? settings document.selfContained,
        Exists fun names : List String =>
          names.Perm (schemaNames document.selfContained) ∧ Exports body names) ∧
      (∀ body ∈ paramsBody? settings (hasSchemas settings document.selfContained)
          document.selfContained,
        Exports body (paramsNames document.selfContained)) ∧
      (forall name : String,
        name ∈ schemaNames document.selfContained ∧ name ∈ paramsNames document.selfContained ↔
          name ∈ schemaNames document.selfContained ∧ Exists fun endpoint : Endpoint =>
            endpoint ∈ document.selfContained.endpoints ∧ endpoint.hasQuery ∧
              name.toList = Text.capitalizeChars endpoint.method.name.toList ++
                Naming.capitalWords endpoint.path ++ "Params".toList) ∧
      ((schemaNames document.selfContained).Disjoint (paramsNames document.selfContained) ↔
        ∀ endpoint ∈ document.selfContained.endpoints, endpoint.hasQuery ->
          Naming.paramsTypeName endpoint.method.name endpoint.path ∉
            schemaNames document.selfContained)) ∧
    forall name : String,
      (Exists fun document : Document =>
        name ∈ schemaNames document.selfContained ∧ name ∈ paramsNames document.selfContained) ↔
          Naming.IsParamsName name := by
  constructor
  · intro document
    exact ⟨exports_schemasBody settings _, exports_paramsBody settings _ _, mem_both_iff _,
      disjoint_names_iff _⟩
  · intro name
    rw [← Naming.exists_paramsTypeName_eq_iff]
    constructor
    · rintro ⟨document, _, inParams⟩
      rcases (mem_paramsNames_iff _ name).mp inParams with ⟨endpoint, _, _, named⟩
      exact ⟨endpoint.method, endpoint.path, named⟩
    · rintro ⟨method, path, rfl⟩
      exact ⟨_, mem_both_pagedDocument method path⟩

/-- A component schema called `GetItemsParams` is declared next to the parameters type of
`get /items`, with valid settings and both modules generated. -/
theorem not_disjoint_names_getItems :
    let document := (pagedDocument .get "/items" "GetItemsParams").selfContained
    ({} : Settings).validate = .ok () ∧ (schemasBody? {} document).isSome ∧
      (paramsBody? {} (hasSchemas {} document) document).isSome ∧
      ¬ (schemaNames document).Disjoint (paramsNames document) := by
  intro document
  have both := mem_both_pagedDocument .get "/items"
  have name : Naming.paramsTypeName Method.get.name "/items" = "GetItemsParams" := by decide
  simp only [name] at both
  refine ⟨by decide, rfl, ?_, fun disjoint => disjoint both.1 both.2⟩
  obtain ⟨declared, listed, _⟩ := List.mem_map.mp both.2
  unfold paramsBody?
  split
  next none =>
    rw [none] at listed
    cases listed
  next => rfl

end Modules
end OpenApiTypes
