import OpenApiTypes.Proofs.Modules.WrittenTypes
import OpenApiTypes.Proofs.Text.Order

namespace OpenApiTypes
namespace Modules

/-!
# The generated modules are closed under import

A module exists when there is something to declare in it.  What the modules say about each
other agrees with which of them exist: the index re-exports the others, imports name
modules that are there, and names are qualified with an alias only where the module behind
the alias is there and imported.  Three generators decide this separately and hand each
other flags; the statements below compare the flags with the modules that come out.
-/

/-- A renderer that does not fail. -/
structure Renderer.Total (renderer : Renderer) : Prop where
  endpoint : forall described : Descriptor,
    Exists fun text : String => renderer.endpoint described = .ok text
  module : forall content : String,
    Exists fun text : String => renderer.module content = .ok text

/-! ## Lines about other modules -/

/-- The line by which the index re-exports a module. -/
def reexportLine : ModuleKind -> String
  | .schemas => "export * from './schemas';"
  | .params => "export * from './params';"
  | .endpoints => "export * from './endpoints';"
  | .index => "export * from './index';"

theorem reexport_eq_line (kind : ModuleKind) : kind.reexport = reexportLine kind := by
  cases kind <;> decide

/-- The imports at the top of a module: those of the generated modules that it may use, each
under its alias. -/
def importsIn (settings : Settings) (kinds : List ModuleKind) : ModuleKind -> List String
  | .params =>
      if .schemas ∈ kinds then
        ["import * as " ++ settings.aliases.schemas ++ " from './schemas';"]
      else []
  | .endpoints =>
      (if .schemas ∈ kinds then
        ["import * as " ++ settings.aliases.schemas ++ " from './schemas';"]
      else []) ++
      (if .params ∈ kinds then
        ["import * as " ++ settings.aliases.params ++ " from './params';"]
      else [])
  | _ => []

/-- The lines at the top of a module, and the blank line below them.  Without lines there is
no blank line. -/
def topLines (lines : List String) : String :=
  if lines.isEmpty then "" else String.intercalate "\n" lines ++ "\n\n"

theorem belowImports_eq (imports : List String) (body : String) :
    belowImports imports body = topLines imports ++ body := by
  cases imports with
  | nil => exact String.empty_append.symm
  | cons first rest => rfl

/-- The alias is the only part of an import that is not fixed by the module. -/
theorem namespaceImport_eq (kind : ModuleKind) (name : String) :
    kind.namespaceImport name = "import * as " ++ name ++ (" from './" ++ kind.name ++ "';") := by
  simp only [ModuleKind.namespaceImport, String.append_assoc]

theorem namespaceImport_schemas (name : String) :
    ModuleKind.schemas.namespaceImport name =
      "import * as " ++ name ++ " from './schemas';" :=
  namespaceImport_eq .schemas name

theorem namespaceImport_params (name : String) :
    ModuleKind.params.namespaceImport name =
      "import * as " ++ name ++ " from './params';" :=
  namespaceImport_eq .params name

/-- The siblings that are among the generated modules. -/
def siblingsAmong (kinds : List ModuleKind) : Siblings :=
  ⟨kinds.contains .schemas, kinds.contains .params⟩

theorem siblingImports_siblingsAmong (settings : Settings) (kinds : List ModuleKind) :
    siblingImports settings (siblingsAmong kinds) = importsIn settings kinds .endpoints := by
  simp only [siblingImports, siblingsAmong, importsIn, List.contains_iff_mem,
    namespaceImport_schemas, namespaceImport_params]

/-- The parameters types of a document. -/
def paramsDeclarations (settings : Settings) (schemasGenerated : Bool) (document : Document) :
    String :=
  String.intercalate "\n\n"
    ((paramsAliases document).map
      (ParamsAlias.declaration (siblingContext settings schemasGenerated)))

theorem paramsBody?_eq (settings : Settings) (kinds : List ModuleKind) (document : Document) :
    paramsBody? settings (kinds.contains .schemas) document =
      if (paramsAliases document).isEmpty then none
      else some (topLines (importsIn settings kinds .params) ++
        paramsDeclarations settings (kinds.contains .schemas) document) := by
  have texts (context : TypeScript.TypeContext) :
      ParamsAlias.text context = ParamsAlias.declaration context :=
    funext (ParamsAlias.text_eq_declaration context)
  unfold paramsBody? paramsDeclarations importsIn
  simp only [texts, namespaceImport_schemas]
  cases paramsAliases document with
  | nil => rfl
  | cons first rest =>
      by_cases schemas : .schemas ∈ kinds
      · simp [schemas, topLines, String.append_assoc]
      · simp [schemas, topLines]

/-- There is a parameters module exactly when an operation has a query parameter. -/
theorem isSome_paramsBody?_iff (settings : Settings) (schemasGenerated : Bool)
    (document : Document) :
    (paramsBody? settings schemasGenerated document).isSome = true ↔
      Exists fun endpoint : Endpoint => endpoint ∈ document.endpoints ∧ endpoint.hasQuery := by
  constructor
  · intro present
    unfold paramsBody? at present
    cases declared : paramsAliases document with
    | nil => rw [declared] at present; cases present
    | cons first rest =>
        have listed : first ∈ (document.endpoints.filter Endpoint.hasQuery).map ownAlias :=
          (paramsAliases_perm document).mem_iff.mp (declared ▸ List.mem_cons_self)
        rcases List.mem_map.mp listed with ⟨endpoint, kept, _⟩
        exact ⟨endpoint, List.mem_filter.mp kept⟩
  · rintro ⟨endpoint, member, query⟩
    rcases occurs_ownAlias_paramsBody settings schemasGenerated document member query with
        ⟨body, made, _⟩
    rw [made]
    rfl

/-! ## A renderer that does not fail -/

private theorem mapM_total {Item Made Problem : Type} {make : Item -> Except Problem Made}
    (total : forall item : Item, Exists fun made : Made => make item = .ok made)
    (items : List Item) : Exists fun all : List Made => items.mapM make = .ok all := by
  induction items with
  | nil => exact ⟨[], rfl⟩
  | cons first rest inductionHypothesis =>
      rcases total first with ⟨made, firstMade⟩
      rcases inductionHypothesis with ⟨others, restMade⟩
      refine ⟨made :: others, ?_⟩
      rw [List.mapM_cons, firstMade, restMade]
      rfl

/-- What a renderer writes for descriptors: the module around the texts of the endpoints. -/
def Writes (renderer : Renderer) (described : List Descriptor) (body : String) : Prop :=
  Exists fun fragments : List String =>
    described.mapM renderer.endpoint = .ok fragments ∧
      renderer.module (String.intercalate "\n" fragments) = .ok body

/-- A renderer that does not fail makes an endpoints module exactly when there is an
operation, and what it writes stands below the imports. -/
theorem endpointsBody?_of_total {renderer : Renderer} (total : renderer.Total)
    (settings : Settings) (siblings : Siblings) (document : Document) :
    Exists fun made : Option String =>
      endpointsBody? settings renderer siblings document = .ok made ∧
        (made.isSome = true ↔ document.endpoints ≠ []) ∧
        ∀ text ∈ made, Exists fun body : String =>
          Writes renderer (descriptors settings siblings document) body ∧
            text = topLines (siblingImports settings siblings) ++ body := by
  have sameLength : (descriptors settings siblings document).length =
      document.endpoints.length := by
    rw [descriptors, List.length_map]
    exact (Text.sortOn_perm Endpoint.path document.endpoints).length_eq
  rcases mapM_total total.endpoint (descriptors settings siblings document) with
      ⟨fragments, written⟩
  rcases total.module (String.intercalate "\n" fragments) with ⟨body, wrapped⟩
  unfold endpointsBody?
  cases described : descriptors settings siblings document with
  | nil =>
      rw [described] at sameLength
      have empty : document.endpoints = [] := List.eq_nil_of_length_eq_zero sameLength.symm
      refine ⟨none, rfl, ?_, ?_⟩
      · rw [empty]
        exact ⟨fun made => absurd made Bool.false_ne_true, fun nonempty => absurd rfl nonempty⟩
      · intro text made
        cases made
  | cons first rest =>
      rw [described] at sameLength written
      have nonempty : document.endpoints ≠ [] := by
        intro empty
        rw [empty] at sameLength
        cases sameLength
      refine ⟨some (belowImports (siblingImports settings siblings) body), ?_, ?_, ?_⟩
      · show ((first :: rest).mapM renderer.endpoint >>= _) = _
        rw [written]
        show (renderer.module (String.intercalate "\n" fragments) >>= _) = _
        rw [wrapped]
        rfl
      · exact ⟨fun _ => nonempty, fun _ => rfl⟩
      · rintro text made
        refine ⟨body, ⟨fragments, written, wrapped⟩, ?_⟩
        rw [← belowImports_eq]
        exact (Option.some.inj made).symm

/-! ## The bodies -/

/-- The texts of the modules besides the index, as far as there are any. -/
structure OwnTexts where
  schemas : Option String
  params : Option String
  endpoints : Option String

namespace OwnTexts

/-- The text of a kind of module. -/
def text? (texts : OwnTexts) : ModuleKind -> Option String
  | .schemas => texts.schemas
  | .params => texts.params
  | .endpoints => texts.endpoints
  | .index => none

/-- The bodies with these texts, in the order of generation. -/
def bodies (texts : OwnTexts) : List Body :=
  bodyOf .schemas texts.schemas ++ bodyOf .params texts.params ++
    bodyOf .endpoints texts.endpoints

/-- Which sibling modules there are. -/
def siblings (texts : OwnTexts) : Siblings :=
  ⟨texts.schemas.isSome, texts.params.isSome⟩

theorem mem_bodies_iff (texts : OwnTexts) (body : Body) :
    body ∈ texts.bodies ↔ texts.text? body.kind = some body.text := by
  rcases body with ⟨kind, text⟩
  cases kind <;> simp [bodies, bodyOf, text?, Option.map_eq_some_iff]

theorem mem_kinds_iff (texts : OwnTexts) (kind : ModuleKind) :
    kind ∈ texts.bodies.map Body.kind ↔ (texts.text? kind).isSome = true := by
  rw [List.mem_map, Option.isSome_iff_exists]
  constructor
  · rintro ⟨body, member, rfl⟩
    exact ⟨body.text, (texts.mem_bodies_iff body).mp member⟩
  · rintro ⟨text, found⟩
    exact ⟨⟨kind, text⟩, (texts.mem_bodies_iff ⟨kind, text⟩).mpr found, rfl⟩

theorem kinds_sublist (texts : OwnTexts) :
    (texts.bodies.map Body.kind).Sublist [.schemas, .params, .endpoints] := by
  rcases texts with ⟨schemas, params, endpoints⟩
  cases schemas <;> cases params <;> cases endpoints <;> simp [bodies, bodyOf]

end OwnTexts

theorem mem_withIndex_iff (bodies : List Body) (body : Body) :
    body ∈ withIndex bodies ↔
      body ∈ bodies ∨ (bodies ≠ [] ∧ body = ⟨.index, indexBody (bodies.map Body.kind)⟩) := by
  cases bodies with
  | nil => simp [withIndex]
  | cons first rest => simp [withIndex, or_assoc]

/-- The texts are those of the modules of a document whose paths are self-contained. -/
structure OwnTexts.Made (settings : Settings) (renderer : Option Renderer) (ready : Document)
    (texts : OwnTexts) : Prop where
  schemas : texts.schemas = schemasBody? settings ready
  params : texts.params = paramsBody? settings texts.schemas.isSome ready
  endpoints : texts.endpoints.isSome = true ↔ renderer.isSome = true ∧ ready.endpoints ≠ []
  written : ∀ text ∈ texts.endpoints, Exists fun writer : Renderer =>
    renderer = some writer ∧ Exists fun body : String =>
      Writes writer (descriptors settings texts.siblings ready) body ∧
        text = topLines (siblingImports settings texts.siblings) ++ body

/-- With settings that are not refused and a renderer that does not fail, there is nothing
to fail while the bodies are made. -/
theorem bodies_of_valid {settings : Settings} {renderer : Option Renderer}
    (valid : settings.validate = .ok ()) (total : ∀ writer ∈ renderer, writer.Total)
    (document : Document) :
    Exists fun texts : OwnTexts =>
      bodies settings renderer document = .ok (withIndex texts.bodies) ∧
        texts.Made settings renderer document.selfContained := by
  let schemas := schemasBody? settings document.selfContained
  let params := paramsBody? settings schemas.isSome document.selfContained
  cases renderer with
  | none =>
      refine ⟨⟨schemas, params, none⟩, ?_, rfl, rfl, ?_, ?_⟩
      · rw [bodies, valid]
        rfl
      · exact ⟨fun made => absurd made Bool.false_ne_true,
          fun given => absurd given.1 Bool.false_ne_true⟩
      · intro text made
        cases made
  | some writer =>
      rcases endpointsBody?_of_total (total writer rfl)
          settings ⟨schemas.isSome, params.isSome⟩ document.selfContained with
          ⟨endpoints, made, present, written⟩
      refine ⟨⟨schemas, params, endpoints⟩, ?_, rfl, rfl, ?_, ?_⟩
      · rw [bodies, valid]
        show (endpointsBody? settings writer ⟨schemas.isSome, params.isSome⟩
          document.selfContained >>= _) = _
        rw [made]
        rfl
      · exact present.trans ⟨fun nonempty => ⟨rfl, nonempty⟩, fun given => given.2⟩
      · intro text inside
        exact ⟨writer, rfl, written text inside⟩

/-- Bodies that are made are own texts with the index below them. -/
theorem withIndex_of_bodies {settings : Settings} {renderer : Option Renderer}
    {document : Document} {made : List Body} (done : bodies settings renderer document = .ok made) :
    Exists fun texts : OwnTexts => made = withIndex texts.bodies := by
  unfold bodies at done
  cases valid : settings.validate with
  | error problem =>
      rw [valid] at done
      cases done
  | ok _ =>
      rw [valid] at done
      cases renderer with
      | none =>
          cases done
          exact ⟨⟨_, _, none⟩, rfl⟩
      | some writer =>
          dsimp only at done
          cases rendered : endpointsBody? settings writer
              ⟨(schemasBody? settings document.selfContained).isSome,
                (paramsBody? settings (schemasBody? settings document.selfContained).isSome
                  document.selfContained).isSome⟩ document.selfContained with
          | error failure =>
              rw [rendered] at done
              cases done
          | ok endpoints =>
              rw [rendered] at done
              cases done
              exact ⟨⟨_, _, endpoints⟩, rfl⟩

/-- Bodies come in the order of generation, and none of a kind twice. -/
theorem kinds_sublist_of_bodies {settings : Settings} {renderer : Option Renderer}
    {document : Document} {made : List Body} (done : bodies settings renderer document = .ok made) :
    (made.map Body.kind).Sublist ModuleKind.all := by
  rcases withIndex_of_bodies done with ⟨texts, rfl⟩
  have own := texts.kinds_sublist
  cases same : texts.bodies with
  | nil => exact List.nil_sublist _
  | cons first rest =>
      rw [same] at own
      show (((first :: rest) ++ [_]).map Body.kind).Sublist _
      rw [List.map_append]
      exact own.append (List.Sublist.refl [ModuleKind.index])

/-! ## The modules -/

/-- A formatter that changes nothing leaves each body below the header. -/
theorem formatBodies_ok (settings : Settings) (bodies : List Body) :
    formatBodies settings (Except.ok : String -> Except Failure String) bodies =
      .ok (bodies.map (fun body => body.finish settings body.text)) := by
  induction bodies with
  | nil => rfl
  | cons first rest inductionHypothesis =>
      unfold formatBodies at inductionHypothesis ⊢
      rw [List.mapM_cons, inductionHypothesis]
      rfl

def kindsOf (modules : List Module) : List ModuleKind :=
  modules.map Module.kind

/-- Modules that agree with each other.  `kindsOf modules` says which ones there are. -/
structure Closed (settings : Settings) (renderer : Option Renderer) (document : Document)
    (modules : List Module) : Prop where
  /-- No kind of module is there twice. -/
  kinds : (kindsOf modules).Sublist ModuleKind.all
  /-- The schemas module is there when there are component schemas. -/
  schemas : .schemas ∈ kindsOf modules ↔ document.componentSchemas ≠ []
  /-- The parameters module is there when an operation has a query parameter. -/
  params : .params ∈ kindsOf modules ↔
    Exists fun endpoint : Endpoint =>
      endpoint ∈ document.selfContained.endpoints ∧ endpoint.hasQuery
  /-- The endpoints module is there when there are a renderer and an operation. -/
  endpoints : .endpoints ∈ kindsOf modules ↔
    renderer.isSome = true ∧ document.selfContained.endpoints ≠ []
  /-- The index is there when another module is. -/
  index : .index ∈ kindsOf modules ↔
    Exists fun kind : ModuleKind => kind ∈ kindsOf modules ∧ kind ≠ .index
  /-- The index re-exports each other module once, ordered by name. -/
  indexText : ∀ made ∈ modules, made.kind = .index ->
    Exists fun others : List ModuleKind =>
      others.Perm ((kindsOf modules).filter (· ≠ .index)) ∧
        others.Pairwise (fun first second => first.name < second.name) ∧
        made.text = settings.moduleHeader ++ "\n\n" ++
          String.intercalate "\n" (others.map reexportLine)
  /-- The schemas module has no imports. -/
  schemasText : ∀ made ∈ modules, made.kind = .schemas ->
    Exists fun body : String =>
      schemasBody? settings document.selfContained = some body ∧
        made.text = settings.moduleHeader ++ "\n\n" ++ body
  /-- The parameters module has its types below its imports. -/
  paramsText : ∀ made ∈ modules, made.kind = .params ->
    made.text = settings.moduleHeader ++ "\n\n" ++
      (topLines (importsIn settings (kindsOf modules) .params) ++
        paramsDeclarations settings ((kindsOf modules).contains .schemas) document.selfContained)
  /-- The endpoints module has what the renderer writes below its imports. -/
  endpointsText : ∀ made ∈ modules, made.kind = .endpoints ->
    Exists fun writer : Renderer => renderer = some writer ∧ Exists fun body : String =>
      Writes writer
          (descriptors settings (siblingsAmong (kindsOf modules)) document.selfContained) body ∧
        made.text = settings.moduleHeader ++ "\n\n" ++
          (topLines (importsIn settings (kindsOf modules) .endpoints) ++ body)
  /-- The types of schemas are written in the modules. -/
  types : TypesWritten settings document.selfContained
  /-- Outside the schemas module references are qualified when that module is there. -/
  qualified : forall kind : ModuleKind, kind ≠ .schemas ->
    ∀ schema ∈ schemasIn document.selfContained kind,
      ∀ mention ∈ (typeIn settings document.selfContained kind schema).mentioned,
        mention.1 =
          if .schemas ∈ kindsOf modules then some settings.aliases.schemas else none
  /-- Where a parameters type is referred to, the parameters module is there and imported. -/
  paramsType :
    ∀ described ∈ descriptors settings (siblingsAmong (kindsOf modules)) document.selfContained,
      Text.Occurs settings.aliases.params described.paramsType ->
        .params ∈ kindsOf modules ∧
          "import * as " ++ settings.aliases.params ++ " from './params';" ∈
            importsIn settings (kindsOf modules) .endpoints

section

variable (settings : Settings) (texts : OwnTexts)

/-- The modules with given texts. -/
def modulesWith : List Module :=
  (withIndex texts.bodies).map (fun body => body.finish settings body.text)

/-- A kind is among the modules when it has a text; the index is when any kind is. -/
theorem mem_kindsOf_modulesWith_iff (kind : ModuleKind) :
    kind ∈ kindsOf (modulesWith settings texts) ↔
      (texts.text? kind).isSome = true ∨ (texts.bodies ≠ [] ∧ kind = .index) := by
  rw [← texts.mem_kinds_iff]
  unfold kindsOf modulesWith
  simp only [List.map_map, List.mem_map, Function.comp_apply, Body.finish, mem_withIndex_iff]
  constructor
  · rintro ⟨body, own | ⟨nonempty, rfl⟩, rfl⟩
    · exact Or.inl ⟨body, own, rfl⟩
    · exact Or.inr ⟨nonempty, rfl⟩
  · rintro (⟨body, own, rfl⟩ | ⟨nonempty, rfl⟩)
    · exact ⟨body, Or.inl own, rfl⟩
    · exact ⟨_, Or.inr ⟨nonempty, rfl⟩, rfl⟩

/-- A module besides the index has the text of its kind below the header. -/
theorem text_of_mem_modulesWith {made : Module} (member : made ∈ modulesWith settings texts)
    (other : made.kind ≠ .index) :
    Exists fun text : String =>
      texts.text? made.kind = some text ∧
        made.text = settings.moduleHeader ++ "\n\n" ++ text := by
  rcases List.mem_map.mp member with ⟨body, own, rfl⟩
  rcases (mem_withIndex_iff texts.bodies body).mp own with own | ⟨_, rfl⟩
  · exact ⟨body.text, (texts.mem_bodies_iff body).mp own, rfl⟩
  · exact absurd rfl other

theorem kindsOf_modulesWith :
    kindsOf (modulesWith settings texts) =
      texts.bodies.map Body.kind ++ (if texts.bodies.isEmpty then [] else [.index]) := by
  have finished : kindsOf (modulesWith settings texts) =
      (withIndex texts.bodies).map Body.kind := by
    rw [kindsOf, modulesWith, List.map_map]
    rfl
  rw [finished]
  cases texts.bodies with
  | nil => rfl
  | cons first rest =>
      show ((first :: rest) ++ [_]).map Body.kind = _
      rw [List.map_append]
      rfl

theorem siblingsAmong_modulesWith :
    siblingsAmong (kindsOf (modulesWith settings texts)) = texts.siblings := by
  have contains (kind : ModuleKind) (other : kind ≠ .index) :
      (kindsOf (modulesWith settings texts)).contains kind = (texts.text? kind).isSome := by
    rw [Bool.eq_iff_iff, List.contains_iff_mem, mem_kindsOf_modulesWith_iff]
    exact or_iff_left (fun index => other index.2)
  rw [siblingsAmong, contains .schemas (by decide), contains .params (by decide)]
  rfl

theorem filter_kindsOf_modulesWith :
    (kindsOf (modulesWith settings texts)).filter (· ≠ .index) =
      texts.bodies.map Body.kind := by
  rw [kindsOf_modulesWith, List.filter_append, List.filter_eq_self.mpr]
  · cases texts.bodies.isEmpty <;> simp
  · intro kind member
    have present := (texts.mem_kinds_iff kind).mp member
    cases kind <;> simp [OwnTexts.text?] at present ⊢

theorem index_mem_kindsOf_modulesWith_iff :
    .index ∈ kindsOf (modulesWith settings texts) ↔
      Exists fun kind : ModuleKind =>
        kind ∈ kindsOf (modulesWith settings texts) ∧ kind ≠ .index := by
  constructor
  · intro index
    have own := (mem_kindsOf_modulesWith_iff settings texts .index).mp index
    rcases own with text | ⟨nonempty, _⟩
    · cases text
    · rcases List.exists_mem_of_ne_nil _ nonempty with ⟨body, member⟩
      have kept : body.kind ∈ (kindsOf (modulesWith settings texts)).filter (· ≠ .index) := by
        rw [filter_kindsOf_modulesWith]
        exact List.mem_map_of_mem member
      rw [List.mem_filter, decide_eq_true_eq] at kept
      exact ⟨body.kind, kept⟩
  · rintro ⟨kind, member, other⟩
    have kept : kind ∈ (kindsOf (modulesWith settings texts)).filter (· ≠ .index) :=
      List.mem_filter.mpr ⟨member, decide_eq_true other⟩
    rw [filter_kindsOf_modulesWith] at kept
    refine (mem_kindsOf_modulesWith_iff settings texts .index).mpr (Or.inr ⟨?_, rfl⟩)
    intro empty
    rw [empty] at kept
    cases kept

theorem text_of_index_mem_modulesWith {made : Module} (member : made ∈ modulesWith settings texts)
    (index : made.kind = .index) :
    made.text = settings.moduleHeader ++ "\n\n" ++ indexBody (texts.bodies.map Body.kind) := by
  rcases List.mem_map.mp member with ⟨body, own, rfl⟩
  rcases (mem_withIndex_iff texts.bodies body).mp own with own | ⟨_, rfl⟩
  · have found := (texts.mem_bodies_iff body).mp own
    have kind : body.kind = .index := index
    rw [kind] at found
    cases found
  · rfl

end

theorem ModuleKind.name_injective {first second : ModuleKind} (same : first.name = second.name) :
    first = second := by
  revert same
  cases first <;> cases second <;> decide

theorem not_occurs_emptyObject {name : String} (identifier : Naming.isIdentifier name) :
    ¬ Text.Occurs name "\x7b\x7d" := by
  intro occurs
  unfold Naming.isIdentifier at identifier
  have inside := occurs.subset
  cases characters : name.toList with
  | nil =>
      rw [characters] at identifier
      cases identifier
  | cons first rest =>
      rw [characters] at identifier inside
      rw [Naming.isIdentifierChars, Bool.and_eq_true] at identifier
      have brace : first ∈ ['\x7b', '\x7d'] := inside List.mem_cons_self
      have starts := identifier.1
      rcases List.mem_cons.mp brace with rfl | last
      · revert starts
        decide
      · rw [List.mem_singleton.mp last] at starts
        revert starts
        decide

theorem isIdentifier_params_of_valid {settings : Settings} (valid : settings.validate = .ok ()) :
    Naming.isIdentifier settings.aliases.params := by
  unfold Settings.validate at valid
  by_contra refused
  rw [Bool.not_eq_true] at refused
  cases schemas : Naming.isIdentifier settings.aliases.schemas <;>
    simp [schemas, refused] at valid

/-- A descriptor that mentions the alias of the parameters module is one of an operation
with query parameters. -/
theorem hasQuery_of_occurs_paramsType {settings : Settings} (valid : settings.validate = .ok ())
    (siblings : Siblings) (endpoint : Endpoint)
    (mentions : Text.Occurs settings.aliases.params
      (descriptor settings siblings endpoint).paramsType) : endpoint.hasQuery := by
  unfold descriptor at mentions
  unfold Endpoint.hasQuery
  cases query : (endpoint.operation.parametersAt .query).isEmpty with
  | false => rfl
  | true =>
      simp only [query, if_true] at mentions
      exact absurd mentions (not_occurs_emptyObject (isIdentifier_params_of_valid valid))

theorem qualifier_of_mem_mentioned (settings : Settings) (document : Document)
    {kind : ModuleKind} (outside : kind ≠ .schemas) {schema : Schema}
    {mention : Option String × String}
    (member : mention ∈ (typeIn settings document kind schema).mentioned) :
    mention.1 = if hasSchemas settings document then some settings.aliases.schemas else none := by
  have listed := (TypeScript.mentioned_synthesize_perm _ schema).mem_iff.mp member
  rcases List.mem_map.mp listed with ⟨target, _, rfl⟩
  cases kind with
  | schemas => exact absurd rfl outside
  | params => rfl
  | endpoints => rfl
  | index => rfl

section

variable {settings : Settings} {renderer : Option Renderer} {document : Document}
  {texts : OwnTexts} (made : texts.Made settings renderer document.selfContained)

include made

theorem schemas_mem_kindsOf_iff :
    .schemas ∈ kindsOf (modulesWith settings texts) ↔
      hasSchemas settings document.selfContained = true := by
  rw [mem_kindsOf_modulesWith_iff, hasSchemas, ← made.schemas]
  simp [OwnTexts.text?]

theorem params_mem_kindsOf_iff :
    .params ∈ kindsOf (modulesWith settings texts) ↔
      Exists fun endpoint : Endpoint =>
        endpoint ∈ document.selfContained.endpoints ∧ endpoint.hasQuery := by
  rw [← isSome_paramsBody?_iff settings texts.schemas.isSome, ← made.params,
    mem_kindsOf_modulesWith_iff]
  simp [OwnTexts.text?]

theorem endpoints_mem_kindsOf_iff :
    .endpoints ∈ kindsOf (modulesWith settings texts) ↔
      renderer.isSome = true ∧ document.selfContained.endpoints ≠ [] := by
  rw [← made.endpoints, mem_kindsOf_modulesWith_iff]
  simp [OwnTexts.text?]

/-- The flag that the parameters module is made with says whether the schemas module is
among the modules, so the import and the qualified names agree with what there is. -/
theorem text_of_params_mem_modulesWith {found : Module}
    (member : found ∈ modulesWith settings texts) (kind : found.kind = .params) :
    found.text = settings.moduleHeader ++ "\n\n" ++
      (topLines (importsIn settings (kindsOf (modulesWith settings texts)) .params) ++
        paramsDeclarations settings
          ((kindsOf (modulesWith settings texts)).contains .schemas) document.selfContained) := by
  have other : found.kind ≠ .index := by rw [kind]; decide
  have flag : (kindsOf (modulesWith settings texts)).contains .schemas = texts.schemas.isSome :=
    congrArg Siblings.schemas (siblingsAmong_modulesWith settings texts)
  rcases text_of_mem_modulesWith settings texts member other with ⟨text, present, written⟩
  rw [kind] at present
  have body := made.params.symm.trans present
  rw [← flag, paramsBody?_eq] at body
  split at body
  · cases body
  · rw [written, ← Option.some.inj body]

/-- The same for the flags that the endpoints module is made with. -/
theorem text_of_endpoints_mem_modulesWith {found : Module}
    (member : found ∈ modulesWith settings texts) (kind : found.kind = .endpoints) :
    Exists fun writer : Renderer => renderer = some writer ∧ Exists fun body : String =>
      Writes writer (descriptors settings (siblingsAmong (kindsOf (modulesWith settings texts)))
          document.selfContained) body ∧
        found.text = settings.moduleHeader ++ "\n\n" ++
          (topLines (importsIn settings (kindsOf (modulesWith settings texts)) .endpoints) ++
            body) := by
  have other : found.kind ≠ .index := by rw [kind]; decide
  have flags := siblingsAmong_modulesWith settings texts
  rcases text_of_mem_modulesWith settings texts member other with ⟨text, present, written⟩
  rw [kind] at present
  rcases made.written text present with ⟨writer, given, body, writes, rfl⟩
  refine ⟨writer, given, body, ?_, ?_⟩
  · rw [flags]
    exact writes
  · rw [written, ← flags, siblingImports_siblingsAmong]

/-- A descriptor decides by its operation alone whether it refers to a parameters type.
That operation has a query parameter, so the module that the reference needs is there. -/
theorem params_mem_of_occurs_paramsType (valid : settings.validate = .ok ())
    {siblings : Siblings} {described : Descriptor}
    (member : described ∈ descriptors settings siblings document.selfContained)
    (mentions : Text.Occurs settings.aliases.params described.paramsType) :
    .params ∈ kindsOf (modulesWith settings texts) := by
  rcases List.mem_map.mp member with ⟨endpoint, listed, rfl⟩
  have query := hasQuery_of_occurs_paramsType valid siblings endpoint mentions
  have declared := (Document.mem_sortedEndpoints_iff _ endpoint).mp listed
  exact (params_mem_kindsOf_iff made).mpr ⟨endpoint, declared, query⟩

/-- The modules with the texts of a document agree with each other. -/
theorem closed_modulesWith (valid : settings.validate = .ok ()) :
    Closed settings renderer document (modulesWith settings texts) where
  kinds := by
    have last : (if texts.bodies.isEmpty then [] else [ModuleKind.index]).Sublist [.index] := by
      cases texts.bodies.isEmpty <;> simp
    rw [kindsOf_modulesWith]
    exact texts.kinds_sublist.append last
  schemas := (schemas_mem_kindsOf_iff made).trans (hasSchemas_iff settings _)
  params := params_mem_kindsOf_iff made
  endpoints := endpoints_mem_kindsOf_iff made
  index := index_mem_kindsOf_modulesWith_iff settings texts
  indexText := by
    intro found member index
    refine ⟨Text.sortOn ModuleKind.name (texts.bodies.map Body.kind), ?_, ?_, ?_⟩
    · rw [filter_kindsOf_modulesWith]
      exact Text.sortOn_perm _ _
    · have distinct : (texts.bodies.map Body.kind).Nodup :=
        texts.kinds_sublist.nodup (by decide)
      apply Text.ascending_sortOn
      exact distinct.map (fun first second => ModuleKind.name_injective)
    · have lines : ModuleKind.reexport = reexportLine := funext reexport_eq_line
      rw [text_of_index_mem_modulesWith settings texts member index, indexBody, lines]
  schemasText := by
    intro found member kind
    have other : found.kind ≠ .index := by rw [kind]; decide
    rcases text_of_mem_modulesWith settings texts member other with ⟨text, present, written⟩
    rw [kind] at present
    exact ⟨text, made.schemas.symm.trans present, written⟩
  paramsText := by
    intro found member kind
    exact text_of_params_mem_modulesWith made member kind
  endpointsText := by
    intro found member kind
    exact text_of_endpoints_mem_modulesWith made member kind
  types := typesWritten settings _
  qualified := by
    intro kind outside schema _ mention member
    rw [qualifier_of_mem_mentioned settings _ outside member]
    simp only [schemas_mem_kindsOf_iff made]
  paramsType := by
    intro described member mentions
    have present := params_mem_of_occurs_paramsType made valid member mentions
    refine ⟨present, List.mem_append_right _ ?_⟩
    rw [if_pos present]
    exact List.mem_singleton_self _

end

/-- For every document, with settings that are not refused and a renderer that does not
fail, or none, generation does not fail, and the modules agree with each other. -/
theorem generate_closed (settings : Settings) (renderer : Option Renderer) (document : Document)
    (valid : settings.validate = .ok ()) (total : ∀ writer ∈ renderer, writer.Total) :
    Exists fun modules : List Module =>
      generate settings renderer .ok document = .ok modules ∧
        Closed settings renderer document modules := by
  rcases bodies_of_valid valid total document with ⟨texts, made, facts⟩
  refine ⟨modulesWith settings texts, ?_, closed_modulesWith facts valid⟩
  unfold generate
  rw [made]
  exact formatBodies_ok settings (withIndex texts.bodies)

/-- One operation with a query parameter that refers to a component schema. -/
def itemsDocument : Document :=
  let page : Parameter := ⟨"page", .query, false, some (.reference "#/components/schemas/Page")⟩
  ⟨⟨[("/items", .inline { get := some ⟨none, some [.inline page], none, .empty⟩ })], by decide⟩,
    some ⟨⟨[("Page", .primitive .integer none)], by decide⟩, .empty, .empty⟩⟩

/-- A renderer that lists the parameters types. -/
def listParams : Renderer :=
  ⟨fun described => .ok described.paramsType, fun content => .ok content⟩

/-- The four modules of that document agree with each other. -/
theorem generate_itemsDocument_closed :
    Exists fun modules : List Module =>
      generate {} (some listParams) .ok itemsDocument = .ok modules ∧
        Closed {} (some listParams) itemsDocument modules := by
  refine generate_closed {} (some listParams) itemsDocument (by decide) ?_
  rintro writer given
  cases given
  exact ⟨fun described => ⟨described.paramsType, rfl⟩, fun content => ⟨content, rfl⟩⟩

end Modules
end OpenApiTypes
