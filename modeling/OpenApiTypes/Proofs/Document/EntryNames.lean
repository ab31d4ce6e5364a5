import OpenApiTypes.Document.Source
import OpenApiTypes.Proofs.Reading.Places
import Mathlib.Data.List.Nodup

namespace OpenApiTypes
namespace Document

open Reading

/-!
# Names of registry entries

Path templates and component names are chosen by the author of a document.  Readers take
them as names: an entry is read the same whatever it is called.  Before a document is read
its schemas are normalized, though, and outside the component schemas that walk goes by
the names of members alone.  There an entry that is called `schema` is taken for a schema,
and one that is called `example` or `examples` for data, so that the schemas inside of it
are not normalized.

The main statement here says that this is all: a name can be exchanged for an ordinary
one, in every document and for every entry, exactly when it is not one of those three
names, or the registry is that of the component schemas.
-/

/-! ## Registries and their places -/

/-- The registries of the components. -/
inductive ComponentKind where
  | schemas
  | parameters
  | pathItems

/-- The registries whose entries have names that authors choose. -/
inductive NamedRegistry where
  | paths
  | components (kind : ComponentKind)

/-- The name of a registry among the components. -/
def ComponentKind.name : ComponentKind -> String
  | .schemas => "schemas"
  | .parameters => "parameters"
  | .pathItems => "pathItems"

/-- The index of a registry when the components are written as a sequence. -/
def ComponentKind.index : ComponentKind -> Nat
  | .schemas => 0
  | .parameters => 1
  | .pathItems => 2

/-- The place of a registry in a document.  Documents and components are records, so each
of them is an object or a sequence. -/
inductive RegistryPlace : NamedRegistry -> Type
  | paths (root : RecordPlace "paths" 0) : RegistryPlace .paths
  | components {kind : ComponentKind} (root : RecordPlace "components" 1)
      (inside : RecordPlace kind.name kind.index) : RegistryPlace (.components kind)

/-- The document with a registry in the place. -/
def RegistryPlace.fill {registry : NamedRegistry} : RegistryPlace registry -> Json -> Json
  | .paths root, value => root.fill value
  | .components root inside, value => root.fill (inside.fill value)

/-! ## Exchanging names -/

/-- One set of components is another one with an entry renamed. -/
def ComponentKind.Renamed (first second : String) (one other : Components) :
    ComponentKind -> Prop
  | .schemas => Reading.Renamed first second one.schemas other.schemas ∧
      one.parameters = other.parameters ∧ one.pathItems = other.pathItems
  | .parameters => Reading.Renamed first second one.parameters other.parameters ∧
      one.schemas = other.schemas ∧ one.pathItems = other.pathItems
  | .pathItems => Reading.Renamed first second one.pathItems other.pathItems ∧
      one.schemas = other.schemas ∧ one.parameters = other.parameters

/-- One document is another one with an entry renamed. -/
def NamedRegistry.Renamed (first second : String) (one other : Document) : NamedRegistry -> Prop
  | .paths => Reading.Renamed first second one.paths other.paths ∧
      one.components = other.components
  | .components kind => one.paths = other.paths ∧
      Exists fun components : Components => Exists fun otherComponents : Components =>
        one.components = some components ∧ other.components = some otherComponents ∧
          kind.Renamed first second components otherComponents

/-- In every document, every entry of a registry can be stored under either of two names:
the documents are refused with the same error, or read alike but for the name.  The names
are free, and the other entries are the same. -/
def Interchangeable (registry : NamedRegistry) (first second : String) : Prop :=
  forall (place : RegistryPlace registry) (before after : Json.Members) (entry : Json),
    ((before ++ (first, entry) :: after).map Prod.fst).Nodup ->
      ((before ++ (second, entry) :: after).map Prod.fst).Nodup ->
        Related (fun one other => registry.Renamed first second one other)
          (fromJson (place.fill (.object (before ++ (first, entry) :: after))))
          (fromJson (place.fill (.object (before ++ (second, entry) :: after))))

/-- The names that mean something else than a name outside schemas. -/
def fieldKeywords : List String := ["schema", "example", "examples"]

/-- Whether the name of an entry is taken for a keyword. -/
def NamedRegistry.isKeyword (registry : NamedRegistry) (name : String) : Bool :=
  match registry with
  | .components .schemas => false
  | _ => fieldKeywords.contains name

/-! ## Normalization of an entry -/

/-- What becomes of a member outside schemas. -/
def normalizeField (name : String) (value : Json) : Json :=
  if name = "schema" then Schema.normalize value
  else if name = "example" || name = "examples" then value
  else Schema.normalizeFields value

theorem normalizeField_of_not_keyword {name : String} (ordinary : fieldKeywords.contains name = false)
    (value : Json) : normalizeField name value = Schema.normalizeFields value := by
  simp only [fieldKeywords, List.contains_eq_mem, decide_eq_false_iff_not, List.mem_cons, not_or]
    at ordinary
  simp [normalizeField, ordinary]

theorem normalizeFieldMembers_eq_map (members : Json.Members) :
    Schema.normalizeFieldMembers members =
      members.map (fun member => (member.1, normalizeField member.1 member.2)) := by
  induction members with
  | nil => rfl
  | cons member rest inductionHypothesis =>
      rw [Schema.normalizeFieldMembers, inductionHypothesis, List.map_cons]
      rfl

theorem normalizeRoot_fst (member : String × Json) :
    (Schema.normalizeRoot member).1 = member.1 := by
  unfold Schema.normalizeRoot
  split <;> rfl

theorem normalizeComponent_fst (member : String × Json) :
    (Schema.normalizeComponent member).1 = member.1 := by
  unfold Schema.normalizeComponent
  split <;> rfl

/-- What becomes of an entry of a registry of the components. -/
def ComponentKind.normalizeEntry : ComponentKind -> String -> Json -> Json
  | .schemas => fun _ => Schema.normalize
  | .parameters => normalizeField
  | .pathItems => normalizeField

theorem normalizeComponent_object (kind : ComponentKind) (entries : Json.Members) :
    Schema.normalizeComponent (kind.name, .object entries) =
      (kind.name, .object
        (entries.map (fun entry => (entry.1, kind.normalizeEntry entry.1 entry.2)))) := by
  have fields : Schema.normalizeFields (.object entries) =
      .object (entries.map (fun entry => (entry.1, normalizeField entry.1 entry.2))) := by
    rw [Schema.normalizeFields, normalizeFieldMembers_eq_map]
  cases kind with
  | schemas => rfl
  | parameters => exact congrArg (Prod.mk "parameters") fields
  | pathItems => exact congrArg (Prod.mk "pathItems") fields

namespace RegistryPlace

/-- The place after the rest of the document has been normalized. -/
def normalized {registry : NamedRegistry} : RegistryPlace registry -> RegistryPlace registry
  | .paths root => .paths (root.mapMembers Schema.normalizeRoot normalizeRoot_fst)
  | .components (.element before after position) inside =>
      .components (.element before after position) inside
  | .components (.member before after absent) inside =>
      .components
        ((RecordPlace.member before after absent).mapMembers Schema.normalizeRoot normalizeRoot_fst)
        (inside.mapMembers Schema.normalizeComponent normalizeComponent_fst)

/-- What becomes of an entry of a registry in the place.  Records that are written as
sequences are not normalized. -/
def normalizeEntry {registry : NamedRegistry} : RegistryPlace registry -> String -> Json -> Json
  | .paths (.member ..) => normalizeField
  | @RegistryPlace.components kind (.member ..) (.member ..) => kind.normalizeEntry
  | _ => fun _ value => value

/-- Normalization changes each entry by itself, and the rest whatever the entries are. -/
theorem normalizeDocument_fill {registry : NamedRegistry} (place : RegistryPlace registry)
    (entries : Json.Members) :
    Schema.normalizeDocument (place.fill (.object entries)) =
      place.normalized.fill
        (.object (entries.map (fun entry => (entry.1, place.normalizeEntry entry.1 entry.2)))) := by
  have kept : entries.map (fun entry => (entry.1, entry.2)) = entries := List.map_id' entries
  cases place with
  | paths root =>
      cases root with
      | member before after absent =>
          have paths : Schema.normalizeRoot ("paths", .object entries) = ("paths", .object
              (entries.map (fun entry => (entry.1, normalizeField entry.1 entry.2)))) := by
            rw [← normalizeFieldMembers_eq_map]
            rfl
          simp only [fill, RecordPlace.fill, Schema.normalizeDocument, List.map_append,
            List.map_cons, paths]
          rfl
      | element before after position =>
          simp only [normalizeEntry, kept]
          rfl
  | components root inside =>
      cases root with
      | member before after absent =>
          cases inside with
          | member insideBefore insideAfter insideAbsent =>
              simp only [fill, RecordPlace.fill, Schema.normalizeDocument, List.map_append,
                List.map_cons, Schema.normalizeRoot, normalizeComponent_object]
              rfl
          | element insideBefore insideAfter position =>
              simp only [normalizeEntry, kept, fill, RecordPlace.fill, Schema.normalizeDocument,
                List.map_append, List.map_cons]
              rfl
      | element before after position =>
          simp only [normalizeEntry, kept]
          rfl

/-- Ordinary names are all treated in one way. -/
theorem normalizeEntry_eq {registry : NamedRegistry} (place : RegistryPlace registry)
    {first second : String} (firstOrdinary : registry.isKeyword first = false)
    (secondOrdinary : registry.isKeyword second = false) (value : Json) :
    place.normalizeEntry first value = place.normalizeEntry second value := by
  have fields (firstField : fieldKeywords.contains first = false)
      (secondField : fieldKeywords.contains second = false) :
      normalizeField first value = normalizeField second value :=
    (normalizeField_of_not_keyword firstField value).trans
      (normalizeField_of_not_keyword secondField value).symm
  cases place with
  | paths root =>
      cases root with
      | member before after absent => exact fields firstOrdinary secondOrdinary
      | element before after position => rfl
  | @components kind root inside =>
      cases root with
      | member before after absent =>
          cases inside with
          | member insideBefore insideAfter insideAbsent =>
              cases kind with
              | schemas => rfl
              | parameters => exact fields firstOrdinary secondOrdinary
              | pathItems => exact fields firstOrdinary secondOrdinary
          | element insideBefore insideAfter position => rfl
      | element before after position => rfl

end RegistryPlace

/-! ## Reading with an entry renamed -/

private def schemasField : Reading.Field Components :=
  ⟨"schemas", true, fun value components => do
    pure { components with schemas := <- registry Schema.read value }⟩

private def parametersField : Reading.Field Components :=
  ⟨"parameters", true, fun value components => do
    pure { components with parameters := <- registry readParameter value }⟩

private def pathItemsField : Reading.Field Components :=
  ⟨"pathItems", true, fun value components => do
    pure { components with pathItems := <- registry (referable readPathItem) value }⟩

private def pathsField : Reading.Field Document :=
  ⟨"paths", true, fun value document => do
    pure { document with paths := <- registry (referable readPathItem) value }⟩

private def componentsField : Reading.Field Document :=
  ⟨"components", true, fun value document => do
    pure { document with components := <- optional readComponents value }⟩

private def componentsShape : Shape Components :=
  { name := "Components", fields := [schemasField, parametersField, pathItemsField] }

private def documentShape : Shape Document :=
  { name := "Document", fields := [pathsField, componentsField] }

private theorem readComponents_eq :
    readComponents = componentsShape.reader ⟨.empty, .empty, .empty⟩ := rfl

private theorem readNormalized_eq : readNormalized = documentShape.reader ⟨.empty, none⟩ := rfl

variable {first second : String}

/-- Components are read alike with an entry renamed when the registry is. -/
private theorem related_readComponents (kind : ComponentKind)
    (inside : RecordPlace kind.name kind.index) {before after : Json.Members} (value : Json)
    (firstDistinct : ((before ++ (first, value) :: after).map Prod.fst).Nodup)
    (secondDistinct : ((before ++ (second, value) :: after).map Prod.fst).Nodup) :
    Related (fun one other => kind.Renamed first second one other)
      (readComponents (inside.fill (.object (before ++ (first, value) :: after))))
      (readComponents (inside.fill (.object (before ++ (second, value) :: after)))) := by
  rw [readComponents_eq]
  cases kind with
  | schemas =>
      refine Shape.related_reader_fill schemasField [] [parametersField, pathItemsField] rfl
        (by decide) ?_ inside ?_ _
      · intro other member json one two holds
        rcases List.mem_pair.mp member with rfl | rfl
        · refine .bind_left (registry readParameter json) (fun read => .succeeded ?_)
          exact ⟨holds.1, rfl, holds.2.2⟩
        · refine .bind_left (registry (referable readPathItem) json) (fun read => .succeeded ?_)
          exact ⟨holds.1, holds.2.1, rfl⟩
      · intro draft
        refine (related_registry Schema.read value firstDistinct secondDistinct).bind ?_
        intro _ _ renamed
        exact .succeeded ⟨renamed, rfl, rfl⟩
  | parameters =>
      refine Shape.related_reader_fill parametersField [schemasField] [pathItemsField] rfl
        (by decide) ?_ inside ?_ _
      · intro other member json one two holds
        rcases List.mem_pair.mp member with rfl | rfl
        · refine .bind_left (registry Schema.read json) (fun read => .succeeded ?_)
          exact ⟨holds.1, rfl, holds.2.2⟩
        · refine .bind_left (registry (referable readPathItem) json) (fun read => .succeeded ?_)
          exact ⟨holds.1, holds.2.1, rfl⟩
      · intro draft
        refine (related_registry readParameter value firstDistinct secondDistinct).bind ?_
        intro _ _ renamed
        exact .succeeded ⟨renamed, rfl, rfl⟩
  | pathItems =>
      refine Shape.related_reader_fill pathItemsField [schemasField, parametersField] [] rfl
        (by decide) ?_ inside ?_ _
      · intro other member json one two holds
        rcases List.mem_pair.mp member with rfl | rfl
        · refine .bind_left (registry Schema.read json) (fun read => .succeeded ?_)
          exact ⟨holds.1, rfl, holds.2.2⟩
        · refine .bind_left (registry readParameter json) (fun read => .succeeded ?_)
          exact ⟨holds.1, holds.2.1, rfl⟩
      · intro draft
        refine (related_registry (referable readPathItem) value firstDistinct
          secondDistinct).bind ?_
        intro _ _ renamed
        exact .succeeded ⟨renamed, rfl, rfl⟩

/-- A record with a registry in a place is not null. -/
private theorem optional_fill {Result : Type} {name : String} {index : Nat}
    (reader : Reader Result) (inside : RecordPlace name index) (value : Json) :
    optional reader (inside.fill value) = (reader (inside.fill value)).map some := by
  cases inside <;> rfl

/-- Documents are read alike with an entry renamed. -/
private theorem related_readNormalized {registry : NamedRegistry} (place : RegistryPlace registry)
    {before after : Json.Members} (value : Json)
    (firstDistinct : ((before ++ (first, value) :: after).map Prod.fst).Nodup)
    (secondDistinct : ((before ++ (second, value) :: after).map Prod.fst).Nodup) :
    Related (fun one other => registry.Renamed first second one other)
      (readNormalized (place.fill (.object (before ++ (first, value) :: after))))
      (readNormalized (place.fill (.object (before ++ (second, value) :: after)))) := by
  rw [readNormalized_eq]
  cases place with
  | paths root =>
      refine Shape.related_reader_fill pathsField [] [componentsField] rfl (by decide) ?_ root ?_ _
      · intro other member json one two holds
        rw [List.mem_singleton.mp member]
        refine .bind_left (optional readComponents json) (fun read => .succeeded ?_)
        exact ⟨holds.1, rfl⟩
      · intro draft
        refine (related_registry (referable readPathItem) value firstDistinct
          secondDistinct).bind ?_
        intro _ _ renamed
        exact .succeeded ⟨renamed, rfl⟩
  | @components kind root inside =>
      refine Shape.related_reader_fill componentsField [pathsField] [] rfl (by decide) ?_ root ?_ _
      · intro other member json one two holds
        rw [List.mem_singleton.mp member]
        refine .bind_left (Reading.registry (referable readPathItem) json)
          (fun read => .succeeded ?_)
        exact ⟨rfl, holds.2⟩
      · intro draft
        have components := related_readComponents kind inside value firstDistinct secondDistinct
        simp only [componentsField, optional_fill]
        refine (components.map (fun one other =>
          Exists fun read : Components => Exists fun otherRead : Components =>
            one = some read ∧ other = some otherRead ∧
              kind.Renamed first second read otherRead) ?_).bind ?_
        · intro read otherRead renamed
          exact ⟨read, otherRead, rfl, rfl, renamed⟩
        · intro _ _ renamed
          exact .succeeded ⟨rfl, renamed⟩

/-- Ordinary names are names. -/
theorem interchangeable_of_ordinary {registry : NamedRegistry}
    (firstOrdinary : registry.isKeyword first = false)
    (secondOrdinary : registry.isKeyword second = false) :
    Interchangeable registry first second := by
  intro place before after entry firstDistinct secondDistinct
  rw [fromJson, fromJson, ofJson, ofJson, place.normalizeDocument_fill,
    place.normalizeDocument_fill, List.map_append, List.map_append, List.map_cons, List.map_cons,
    place.normalizeEntry_eq firstOrdinary secondOrdinary]
  apply Related.mapError
  apply related_readNormalized
  · simpa [Function.comp_def] using firstDistinct
  · simpa [Function.comp_def] using secondDistinct

/-! ## Names that are taken for keywords -/

/-- A parameter whose schema says in the older spelling that it admits null. -/
def flaggedParameter : Json :=
  .object [("name", .string "x"), ("in", .string "query"),
    ("schema", .object [("type", .string "string"), ("x-nullable", .boolean true)])]

/-- A path item that shares this parameter. -/
def flaggedPathItem : Json :=
  .object [("parameters", .array [flaggedParameter])]

/-- What the parameter is read as, depending on its schema. -/
def readAs (schema : Schema) : Parameter := ⟨"x", .query, false, some schema⟩

/-- What the path item is read as, depending on the schema of the parameter. -/
def sharing (schema : Schema) : Referable PathItem :=
  .inline { parameters := some [.inline (readAs schema)] }

/-- An entry that shows whether the schemas inside of it are normalized. -/
def NamedRegistry.flaggedEntry : NamedRegistry -> Json
  | .components .parameters => flaggedParameter
  | _ => flaggedPathItem

/-- The place of a registry in a document that holds nothing else. -/
def NamedRegistry.alone : (registry : NamedRegistry) -> RegistryPlace registry
  | .paths => .paths (.member [] [] List.not_mem_nil)
  | .components _ => .components (.member [] [] List.not_mem_nil) (.member [] [] List.not_mem_nil)

/-- Under the name of a keyword the schema inside of the entry is not normalized. -/
theorem normalizeField_flaggedEntry {name : String} (keyword : fieldKeywords.contains name = true)
    (registry : NamedRegistry) :
    normalizeField name registry.flaggedEntry = registry.flaggedEntry := by
  rw [List.contains_eq_mem, decide_eq_true_iff] at keyword
  have both : normalizeField name flaggedParameter = flaggedParameter ∧
      normalizeField name flaggedPathItem = flaggedPathItem := by
    rcases List.mem_cons.mp keyword with rfl | other
    · exact ⟨rfl, rfl⟩
    · rcases List.mem_pair.mp other with rfl | rfl
      · exact ⟨rfl, rfl⟩
      · exact ⟨rfl, rfl⟩
  unfold NamedRegistry.flaggedEntry
  split
  · exact both.1
  · exact both.2

/-- A document that holds nothing but an entry with the parameter.  Component schemas are
left out: no name of theirs is a keyword. -/
def NamedRegistry.holding (name : String) (schema : Schema) : NamedRegistry -> Document
  | .paths => ⟨⟨[(name, sharing schema)], List.nodup_singleton name⟩, none⟩
  | .components .parameters =>
      ⟨.empty, some ⟨.empty, ⟨[(name, readAs schema)], List.nodup_singleton name⟩, .empty⟩⟩
  | .components .pathItems =>
      ⟨.empty, some ⟨.empty, .empty, ⟨[(name, sharing schema)], List.nodup_singleton name⟩⟩⟩
  | .components .schemas => ⟨.empty, none⟩

/-- A keyword hides the schema of the entry from normalization, so the type that it is
read with lacks null. -/
theorem fromJson_flaggedEntry_of_keyword {registry : NamedRegistry} {name : String}
    (keyword : registry.isKeyword name = true) :
    fromJson (registry.alone.fill (.object [(name, registry.flaggedEntry)])) =
      .ok (registry.holding name (.primitive .string none)) := by
  rw [fromJson, ofJson, RegistryPlace.normalizeDocument_fill]
  rcases registry with _ | _ | _ | _
  · have kept := normalizeField_flaggedEntry keyword .paths
    simp only [List.map_cons, List.map_nil, NamedRegistry.alone, RegistryPlace.normalizeEntry, kept]
    rfl
  · cases keyword
  · have kept := normalizeField_flaggedEntry keyword (.components .parameters)
    simp only [List.map_cons, List.map_nil, NamedRegistry.alone, RegistryPlace.normalizeEntry,
      ComponentKind.normalizeEntry, kept]
    rfl
  · have kept := normalizeField_flaggedEntry keyword (.components .pathItems)
    simp only [List.map_cons, List.map_nil, NamedRegistry.alone, RegistryPlace.normalizeEntry,
      ComponentKind.normalizeEntry, kept]
    rfl

/-- An ordinary name does not. -/
theorem fromJson_flaggedEntry_of_ordinary {registry : NamedRegistry} {name : String}
    (ordinary : fieldKeywords.contains name = false) (notSchemas : registry ≠ .components .schemas) :
    fromJson (registry.alone.fill (.object [(name, registry.flaggedEntry)])) =
      .ok (registry.holding name (.nullable (.primitive .string none))) := by
  have normalized := normalizeField_of_not_keyword ordinary
  rw [fromJson, ofJson, RegistryPlace.normalizeDocument_fill]
  rcases registry with _ | _ | _ | _
  · simp only [List.map_cons, List.map_nil, NamedRegistry.alone, RegistryPlace.normalizeEntry,
      normalized]
    rfl
  · exact absurd rfl notSchemas
  · simp only [List.map_cons, List.map_nil, NamedRegistry.alone, RegistryPlace.normalizeEntry,
      ComponentKind.normalizeEntry, normalized]
    rfl
  · simp only [List.map_cons, List.map_nil, NamedRegistry.alone, RegistryPlace.normalizeEntry,
      ComponentKind.normalizeEntry, normalized]
    rfl

private theorem value_eq_of_renamed {Entry : Type} {one other : Registry Entry}
    {value otherValue : Entry} (renamed : Reading.Renamed first second one other)
    (oneEntries : one.entries = [(first, value)])
    (otherEntries : other.entries = [(second, otherValue)]) : value = otherValue := by
  rcases renamed.get?_eq with ⟨entry, found, otherFound⟩
  rw [Registry.get?, oneEntries] at found
  rw [Registry.get?, otherEntries] at otherFound
  simp only [List.lookup_cons, beq_self_eq_true, Option.some.injEq] at found otherFound
  rw [found, otherFound]

/-- A name that is taken for a keyword cannot be exchanged for an ordinary one. -/
theorem not_interchangeable_of_keyword {registry : NamedRegistry}
    (keyword : registry.isKeyword first = true) (ordinary : registry.isKeyword second = false) :
    ¬ Interchangeable registry first second := by
  intro exchange
  have notSchemas : registry ≠ .components .schemas := by
    rintro rfl
    cases keyword
  have ordinaryField : fieldKeywords.contains second = false := by
    rcases registry with _ | _ | _ | _
    · exact ordinary
    · exact absurd rfl notSchemas
    · exact ordinary
    · exact ordinary
  have related := exchange registry.alone [] [] registry.flaggedEntry
    (List.nodup_singleton first) (List.nodup_singleton second)
  rw [List.nil_append, List.nil_append, fromJson_flaggedEntry_of_keyword keyword,
    fromJson_flaggedEntry_of_ordinary ordinaryField notSchemas] at related
  have renamed := related.results
  rcases registry with _ | _ | _ | _
  · cases value_eq_of_renamed renamed.1 rfl rfl
  · exact notSchemas rfl
  · rcases renamed.2 with ⟨_, _, read, otherRead, parameters, _⟩
    cases read
    cases otherRead
    cases value_eq_of_renamed parameters rfl rfl
  · rcases renamed.2 with ⟨_, _, read, otherRead, pathItems, _⟩
    cases read
    cases otherRead
    cases value_eq_of_renamed pathItems rfl rfl

/-- A name can be exchanged for an ordinary one, in every document and for every entry,
exactly when it is not taken for a keyword. -/
theorem interchangeable_iff {registry : NamedRegistry} {ordinary : String}
    (isOrdinary : registry.isKeyword ordinary = false) (name : String) :
    Interchangeable registry name ordinary ↔ registry.isKeyword name = false := by
  constructor
  · intro exchange
    rw [← Bool.not_eq_true]
    intro keyword
    exact not_interchangeable_of_keyword keyword isOrdinary exchange
  · intro alsoOrdinary
    exact interchangeable_of_ordinary alsoOrdinary isOrdinary

/-- Component schemas may be called `schema`. -/
theorem interchangeable_schemas_schema :
    (NamedRegistry.components .schemas).isKeyword "Limit" = false ∧
      (Interchangeable (.components .schemas) "schema" "Limit" ↔
        (NamedRegistry.components .schemas).isKeyword "schema" = false) :=
  ⟨rfl, interchangeable_iff rfl "schema"⟩

/-- A component parameter may not. -/
theorem not_interchangeable_parameters_schema :
    ¬ Interchangeable (.components .parameters) "schema" "Limit" :=
  not_interchangeable_of_keyword (by decide) (by decide)

end Document
end OpenApiTypes
