import OpenApiTypes.Proofs.Reading.Agreement
import OpenApiTypes.Proofs.Schema.Everywhere
import OpenApiTypes.Proofs.Schema.KeywordReading

namespace OpenApiTypes

/-!
# Where the schemas in a schema come from

What the keywords of a schema object hold was read from values in that object, and so was
each schema that stands in what they hold.  The form of the object puts some of these
schemas together; several types give it parts that are no schemas of their own, but forms of
the same keywords.
-/

/-- The values that stand directly in a value. -/
def Json.children : Json -> List Json
  | .array items => items
  | .object members => members.map Prod.snd
  | _ => []

/-- Induction in which a value may use what holds two steps further inside.  A keyword is a
member of its object, and the schemas of a composition are items of that member. -/
theorem Json.children_induct {motive : Json -> Prop}
    (step : forall value : Json,
      (∀ part ∈ value.children, ∀ source ∈ part :: part.children, motive source) -> motive value)
    (value : Json) : motive value := by
  have below : motive value ∧ ∀ part ∈ value.children, motive part := by
    induction value with
    | array items inductionHypothesis =>
        refine ⟨step _ ?_, fun item listed => (inductionHypothesis item listed).1⟩
        intro item listed
        exact List.forall_mem_cons.mpr (inductionHypothesis item listed)
    | object members inductionHypothesis =>
        refine ⟨step _ ?_, ?_⟩
        · intro part listed
          rcases List.mem_map.mp listed with ⟨member, stored, rfl⟩
          exact List.forall_mem_cons.mpr (inductionHypothesis member stored)
        · intro part listed
          rcases List.mem_map.mp listed with ⟨member, stored, rfl⟩
          exact (inductionHypothesis member stored).1
    | null => exact ⟨step _ nofun, nofun⟩
    | boolean value => exact ⟨step _ nofun, nofun⟩
    | number value => exact ⟨step _ nofun, nofun⟩
    | string value => exact ⟨step _ nofun, nofun⟩
  exact below.1

namespace Schema

open Reading

/-! ## What the keywords hold -/

/-- The schemas in what a keyword holds. -/
def Keyword.schemas : (keyword : Keyword) -> keyword.Content -> List Schema
  | .oneOf, listed => listed
  | .allOf, listed => listed
  | .anyOf, listed => listed
  | .properties, declared => declared.map PropertyOf.schema
  | .additionalProperties, .schema inner => [inner]
  | .items, inner => [inner]
  | _, _ => []

/-- Every place holds something that was read, for its keyword, from one of the values. -/
def Keywords.ReadFrom (sources : List Json) (keywords : Keywords) : Prop :=
  forall keyword : Keyword, ∀ content ∈ keywords.get keyword,
    ∃ part ∈ sources, keyword.read part = .ok (some content)

namespace Keywords

theorem readFrom_empty (sources : List Json) : ReadFrom sources {} := by
  intro keyword content held
  cases keyword <;> cases held

theorem ReadFrom.set {sources : List Json} {keywords : Keywords} (soFar : keywords.ReadFrom sources)
    {keyword : Keyword} {part : Json} (listed : part ∈ sources)
    {content : Option keyword.Content} (read : keyword.read part = .ok content) :
    (keywords.set keyword content).ReadFrom sources := by
  intro other held holds
  by_cases same : other = keyword
  · subst same
    rw [get_set] at holds
    cases holds
    exact ⟨part, listed, read⟩
  · rw [get_set_of_ne _ same] at holds
    exact soFar other held holds

/-- A keyword that is read from one of the values keeps its place filled from them. -/
private theorem readFrom_of_put {sources : List Json} {keywords next : Keywords}
    (soFar : keywords.ReadFrom sources) {keyword : Keyword} {part : Json} (listed : part ∈ sources)
    (put : keywords.put keyword part (fun _ => readKeywords part) (fun _ => readSchemaList part)
      (fun _ => readPropertyMap part) = .ok next) : next.ReadFrom sources := by
  rw [put_eq] at put
  cases read : keyword.read part with
  | error problem =>
      rw [read] at put
      cases put
  | ok content =>
      rw [read] at put
      cases put
      exact soFar.set listed read

private theorem readFrom_of_readMembers {sources : List Json} {members : Json.Members}
    (listed : ∀ member ∈ members, member.2 ∈ sources) {start keywords : Keywords}
    (soFar : start.ReadFrom sources) (read : readMembers members start = .ok keywords) :
    keywords.ReadFrom sources := by
  induction members generalizing start with
  | nil =>
      cases read
      exact soFar
  | cons member rest inductionHypothesis =>
      rw [List.forall_mem_cons] at listed
      rw [readMembers] at read
      split at read
      next => exact inductionHypothesis listed.2 soFar read
      next keyword known =>
        split at read
        next next put =>
          exact inductionHypothesis listed.2 (readFrom_of_put soFar listed.1 put) read
        next => cases read

private theorem readFrom_of_readElements {sources items : List Json} {expected : List Keyword}
    (listed : ∀ item ∈ items, item ∈ sources) {length index : Nat} {start keywords : Keywords}
    (soFar : start.ReadFrom sources)
    (read : readElements length index expected items start = .ok keywords) :
    keywords.ReadFrom sources := by
  induction items generalizing index expected start with
  | nil =>
      rw [readElements] at read
      split at read
      next =>
        cases read
        exact soFar
      next => cases read
  | cons item rest inductionHypothesis =>
      rw [List.forall_mem_cons] at listed
      cases expected with
      | nil => cases read
      | cons keyword others =>
          rw [readElements] at read
          split at read
          next next put =>
            exact inductionHypothesis listed.2 (readFrom_of_put soFar listed.1 put) read
          next => cases read

/-- What the keywords of a schema hold was read from values in it. -/
theorem readFrom_children {value : Json} {keywords : Keywords}
    (read : readKeywords value = .ok keywords) : keywords.ReadFrom value.children := by
  cases value with
  | object members =>
      exact readFrom_of_readMembers (fun _ => List.mem_map_of_mem) (readFrom_empty _) read
  | array items => exact readFrom_of_readElements (fun _ listed => listed) (readFrom_empty _) read
  | null => cases read
  | boolean value => cases read
  | number value => cases read
  | string value => cases read

end Keywords

/-! ## The schemas in it -/

private theorem exists_of_readSchemas {items : List Json} {schemas : List Schema}
    (read : readSchemas items = .ok schemas) :
    ∀ schema ∈ schemas, ∃ item ∈ items, Schema.read item = .ok schema := by
  induction items generalizing schemas with
  | nil =>
      cases read
      exact nofun
  | cons item rest inductionHypothesis =>
      rw [readSchemas] at read
      rcases exists_of_bind_eq_ok read with ⟨keywords, here, read⟩
      rcases exists_of_bind_eq_ok read with ⟨others, later, same⟩
      cases same
      rw [List.forall_mem_cons]
      refine ⟨⟨item, List.mem_cons_self, (read_eq_ok_iff ..).mpr ⟨keywords, here, rfl⟩⟩, ?_⟩
      intro schema listed
      rcases inductionHypothesis later schema listed with ⟨source, stored, reads⟩
      exact ⟨source, List.mem_cons_of_mem item stored, reads⟩

private theorem properties_of_readProperties {members : Json.Members} {properties : List Property}
    (read : readProperties members = .ok properties) :
    properties.map PropertyOf.name = members.map Prod.fst ∧
      ∀ property ∈ properties, ∃ member ∈ members,
        Schema.read member.2 = .ok property.schema := by
  induction members generalizing properties with
  | nil =>
      cases read
      exact ⟨rfl, nofun⟩
  | cons member rest inductionHypothesis =>
      rw [readProperties] at read
      rcases exists_of_bind_eq_ok read with ⟨keywords, here, read⟩
      rcases exists_of_bind_eq_ok read with ⟨others, later, same⟩
      cases same
      rcases inductionHypothesis later with ⟨names, sources⟩
      refine ⟨congrArg (member.1 :: ·) names, ?_⟩
      rw [List.forall_mem_cons]
      refine ⟨⟨member, List.mem_cons_self, (read_eq_ok_iff ..).mpr ⟨keywords, here, rfl⟩⟩, ?_⟩
      intro property listed
      rcases sources property listed with ⟨source, stored, reads⟩
      exact ⟨source, List.mem_cons_of_mem member stored, reads⟩

namespace Keyword

private theorem of_optional {Result : Type} {reader : Reader Result} {part : Json}
    {result : Result} (read : optional reader part = .ok (some result)) :
    reader part = .ok result := by
  cases part with
  | null => cases read
  | _ =>
      rcases map_eq_ok_iff.mp read with ⟨found, here, same⟩
      cases same
      exact here

/-- The properties of a schema are named as the members that declare them. -/
theorem names_of_read {part : Json} {declared : List Property}
    (read : Keyword.properties.read part = .ok (some declared)) :
    Exists fun members : Json.Members =>
      part = .object members ∧ declared.map PropertyOf.name = members.map Prod.fst := by
  have map := of_optional read
  cases part with
  | object members => exact ⟨members, rfl, (properties_of_readProperties map).1⟩
  | _ => cases map

/-- What a keyword holds is made of schemas that were read from its value, or from what
stands directly in its value. -/
theorem exists_source {keyword : Keyword} {part : Json} {content : keyword.Content}
    (read : keyword.read part = .ok (some content)) :
    ∀ schema ∈ keyword.schemas content, ∃ source ∈ part :: part.children,
      Schema.read source = .ok schema := by
  have listed {schemas : List Schema} (read : optional readSchemaList part = .ok (some schemas)) :
      ∀ schema ∈ schemas, ∃ source ∈ part :: part.children, Schema.read source = .ok schema := by
    have list := of_optional read
    cases part with
    | array items =>
        intro schema member
        rcases exists_of_readSchemas list schema member with ⟨item, stored, reads⟩
        exact ⟨item, List.mem_cons_of_mem _ stored, reads⟩
    | _ => cases list
  cases keyword with
  | oneOf => exact listed read
  | allOf => exact listed read
  | anyOf => exact listed read
  | properties =>
      have map := of_optional read
      cases part with
      | object members =>
          refine List.forall_mem_map.mpr ?_
          intro property member
          rcases (properties_of_readProperties map).2 property member with ⟨source, stored, reads⟩
          exact ⟨source.2, List.mem_cons_of_mem _ (List.mem_map_of_mem stored), reads⟩
      | _ => cases map
  | additionalProperties =>
      cases content with
      | allowed flag => exact List.forall_mem_nil _
      | schema inner =>
          refine List.forall_mem_singleton.mpr ⟨part, List.mem_cons_self, ?_⟩
          have additional := of_optional read
          cases part with
          | boolean flag => cases additional
          | _ =>
              rw [readAdditional] at additional
              · split at additional
                next keywords gathered =>
                  cases additional
                  exact (read_eq_ok_iff ..).mpr ⟨keywords, gathered, rfl⟩
                next => cases additional
              · intro flag same
                cases same
  | items =>
      refine List.forall_mem_singleton.mpr ?_
      exact ⟨part, List.mem_cons_self, of_optional read⟩
  | _ => exact List.forall_mem_nil _

end Keyword

/-! ## The forms around them -/

namespace Keywords

/-- One of the keywords holds the schema. -/
def Holds (keywords : Keywords) (schema : Schema) : Prop :=
  Exists fun keyword : Keyword => ∃ content ∈ keywords.get keyword, schema ∈ keyword.schemas content

/-- A held schema was read from a value two steps inside at most. -/
theorem Holds.exists_source {keywords : Keywords} {schema : Schema} (holds : keywords.Holds schema)
    {value : Json} (read : readKeywords value = .ok keywords) :
    ∃ part ∈ value.children, ∃ source ∈ part :: part.children, Schema.read source = .ok schema := by
  rcases holds with ⟨keyword, content, held, listed⟩
  rcases readFrom_children read keyword content held with ⟨part, stored, reads⟩
  exact ⟨part, stored, keyword.exists_source reads schema listed⟩

/-- A single type adds nothing to the schemas that the keywords hold. -/
theorem holds_of_mem_typedForm {keywords : Keywords} {type : String} {schema : Schema}
    (inside : schema ∈ (keywords.typedForm type).children) : keywords.Holds schema := by
  unfold typedForm at inside
  split at inside
  next => cases inside
  next => split at inside <;> cases inside
  next =>
    split at inside
    next =>
      split at inside
      next values held =>
        exact ⟨.additionalProperties, .schema values, held, inside⟩
      next => cases inside
      next =>
        cases held : keywords.properties with
        | none =>
            rw [held] at inside
            cases inside
        | some declared =>
            rw [held] at inside
            exact ⟨.properties, declared, held, inside⟩
    next =>
      split at inside
      next =>
        cases held : keywords.items with
        | none =>
            rw [held] at inside
            cases inside
        | some items =>
            rw [held] at inside
            exact ⟨.items, items, held, inside⟩
      next => cases inside

/-- What stands in a form is held by a keyword, or is what one of several types gives. -/
theorem holds_or_typed_of_mem_form {keywords : Keywords} {types : List String} {schema : Schema}
    (inside : schema ∈ (keywords.form types).children) :
    keywords.Holds schema ∨ Exists fun type : String => keywords.typedForm type = schema := by
  unfold form at inside
  split at inside
  next => cases inside
  next alternatives _ held => exact .inl ⟨.oneOf, alternatives, held, inside⟩
  next members _ _ held => exact .inl ⟨.allOf, members, held, inside⟩
  next alternatives _ _ _ held => exact .inl ⟨.anyOf, alternatives, held, inside⟩
  next =>
    split at inside
    next => split at inside <;> cases inside
    next => exact .inl (holds_of_mem_typedForm inside)
    next =>
      rcases List.mem_map.mp inside with ⟨type, _, same⟩
      exact .inr ⟨type, same⟩

/-- What the forms of the keywords have themselves, and everything in the schemas that the
keywords hold has, is had by everything in the schema. -/
theorem everywhere_toSchema {keywords : Keywords} {property : Schema -> Prop}
    (typed : forall type : String, property (keywords.typedForm type))
    (formed : property (keywords.form keywords.effectiveTypes))
    (whole : property keywords.toSchema)
    (held : forall schema : Schema, keywords.Holds schema -> schema.Everywhere property) :
    keywords.toSchema.Everywhere property := by
  have typedEverywhere (type : String) : (keywords.typedForm type).Everywhere property :=
    (everywhere_iff ..).mpr
      ⟨typed type, fun child inside => held child (holds_of_mem_typedForm inside)⟩
  have formEverywhere : (keywords.form keywords.effectiveTypes).Everywhere property := by
    refine (everywhere_iff ..).mpr ⟨formed, ?_⟩
    intro child inside
    rcases holds_or_typed_of_mem_form inside with holds | ⟨type, rfl⟩
    · exact held child holds
    · exact typedEverywhere type
  refine (everywhere_iff ..).mpr ⟨whole, ?_⟩
  unfold toSchema
  dsimp only
  split
  next => exact List.forall_mem_singleton.mpr formEverywhere
  next => exact fun child inside => ((everywhere_iff ..).mp formEverywhere).2 child inside

end Keywords

/-- What the forms of every object of an acceptable value have is had by everything in the
schema that is read from it. -/
theorem everywhere_of_read {acceptable : Json -> Prop} {property : Schema -> Prop}
    (inherits : forall value : Json, acceptable value -> ∀ part ∈ value.children, acceptable part)
    (own : forall (value : Json) (keywords : Keywords), acceptable value ->
      readKeywords value = .ok keywords ->
        (forall type : String, property (keywords.typedForm type)) ∧
          property (keywords.form keywords.effectiveTypes) ∧ property keywords.toSchema)
    {value : Json} (accepted : acceptable value) {schema : Schema}
    (read : Schema.read value = .ok schema) : schema.Everywhere property := by
  induction value using Json.children_induct generalizing schema with
  | step value inductionHypothesis =>
      rcases (read_eq_ok_iff ..).mp read with ⟨keywords, gathered, rfl⟩
      rcases own value keywords accepted gathered with ⟨typed, formed, whole⟩
      refine keywords.everywhere_toSchema typed formed whole ?_
      intro held holds
      rcases holds.exists_source gathered with ⟨part, stored, source, inside, reads⟩
      have acceptedPart := inherits value accepted part stored
      have acceptedSource : acceptable source :=
        List.forall_mem_cons.mpr ⟨acceptedPart, inherits part acceptedPart⟩ source inside
      exact inductionHypothesis part stored source inside acceptedSource reads

end Schema
end OpenApiTypes
