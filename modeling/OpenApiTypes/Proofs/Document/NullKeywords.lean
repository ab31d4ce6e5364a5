import OpenApiTypes.Proofs.Document.NormalizedSchemas
import OpenApiTypes.Proofs.Document.Parts

namespace OpenApiTypes
namespace Document

open Reading
open Schema (Keyword Keywords Position readKeywords)

/-!
# Keywords that are bound to null

A keyword of a schema that is bound to null is read like one that is missing.  But the
older spellings are replaced before that, and there only the presence of a member counts: a
null in the place of what an older spelling implies hides it.

So a null can be left out of a schema, anywhere in a document, except where an older
spelling beside it implies something for the same keyword.  Each of these exceptions is
one: for any such flag and any such constant there is a document that is read differently.
-/

/-! ## Parts and the walk over them -/

namespace Region

/-- Whether a part may be met in a region.  A region inside of data, and one outside of
schemas, may hold anything; where schemas are expected there are records, since entries of
other registries are taken for schemas too when they are called `schema`. -/
def fits : Region -> Part -> Bool
  | .document, part => part = .document
  | .components, part => part = .components
  | .schemas, part => part = .schemas
  | .fields, _ => true
  | .inside .schema, part => part.entry?.isNone && part.item?.isNone
  | .inside .schemaOrFlag, part => part.entry?.isNone && part.item?.isNone
  | .inside .schemas, part => part = .schemaList
  | .inside .named, part => part = .properties
  | .inside .data, _ => true

/-- A part under a name is the entry of a registry, or held by a record. -/
private theorem entry_or_field {part inner : Part} {name : String}
    (step : part.member? name = some inner) :
    part.entry? = some inner ∨ (name, some inner) ∈ part.fields := by
  cases entry : part.entry? with
  | some entries =>
      rw [Part.member?, entry] at step
      exact .inl step
  | none =>
      rw [Part.member?, entry, Option.none_or, Option.join_eq_some_iff] at step
      rcases List.lookup_eq_some_iff.mp step with ⟨before, after, fields, _⟩
      rw [fields]
      exact .inr (List.mem_append_right _ List.mem_cons_self)

/-- In a schema, records hold their parts where parts of that kind are expected, and never
under the name of an older spelling. -/
private theorem fits_field {part inner : Part} {name : String}
    (field : (name, some inner) ∈ part.fields) :
    (inside (Position.ofMember name)).fits inner = true ∧ name ≠ "x-nullable" ∧ name ≠ "const" := by
  have each : ∀ member ∈ part.fields, ∀ inner ∈ member.2,
      (inside (Position.ofMember member.1)).fits inner = true ∧
        member.1 ≠ "x-nullable" ∧ member.1 ≠ "const" := by
    cases part <;> decide
  exact each _ field inner rfl

private theorem fits_schema_of_fields {part inner : Part}
    (step : part.member? "schema" = some inner) : (inside .schema).fits inner = true := by
  cases part <;> cases step <;> rfl

/-- The walk meets the parts of a part where they fit. -/
theorem fits_member {region : Region} {part inner : Part} {name : String}
    (fits : region.fits part = true) (step : part.member? name = some inner) :
    (region.member name).fits inner = true := by
  have ofRecord (record : (part.entry?.isNone && part.item?.isNone) = true) :
      (inside (Position.ofMember name)).fits inner = true := by
    rcases entry_or_field step with entry | field
    · rw [entry] at record
      cases record
    · exact (fits_field field).1
  cases region with
  | document =>
      cases of_decide_eq_true fits
      rcases entry_or_field step with entry | field
      · cases entry
      · rcases List.mem_pair.mp field with same | same
        · cases same
          rfl
        · cases same
          rfl
  | components =>
      cases of_decide_eq_true fits
      rcases entry_or_field step with entry | field
      · cases entry
      · rcases List.mem_cons.mp field with same | later
        · cases same
          rfl
        · rcases List.mem_pair.mp later with same | same
          · cases same
            rfl
          · cases same
            rfl
  | schemas =>
      cases of_decide_eq_true fits
      cases step
      rfl
  | fields =>
      rw [member]
      split
      · subst name
        exact fits_schema_of_fields step
      · split <;> rfl
  | inside position =>
      cases position with
      | schema => exact ofRecord fits
      | schemaOrFlag => exact ofRecord fits
      | named =>
          cases of_decide_eq_true fits
          cases step
          rfl
      | schemas => rfl
      | data => rfl

theorem fits_element {region : Region} {part inner : Part} {index : Nat}
    (fits : region.fits part = true) (step : part.element? index = some inner) :
    region.element.fits inner = true := by
  cases region with
  | inside position =>
      cases position with
      | schemas =>
          cases of_decide_eq_true fits
          cases step
          rfl
      | _ => rfl
  | _ => rfl

/-- The walk over an object leaves each part that it holds in it, and does nothing else that
would depend on that part. -/
theorem normalize_amid {region : Region} {part inner : Part} {name : String}
    (fits : region.fits part = true) (step : part.member? name = some inner)
    (before after : Json.Members) :
    Exists fun left : Json.Members => Exists fun right : Json.Members => forall value : Json,
      region.normalize (.object (before ++ (name, value) :: after)) =
        .object (left ++ (name, (region.member name).normalize value) :: right) := by
  have walked (value : Json) : region.normalizeMembers (before ++ (name, value) :: after) =
      region.normalizeMembers before ++
        (name, (region.member name).normalize value) :: region.normalizeMembers after := by
    rw [normalizeMembers, List.map_append, List.map_cons]
    rfl
  simp only [normalize_object, walked, respelled]
  cases schema : region.holdsSchema with
  | false => exact ⟨_, _, fun value => rfl⟩
  | true =>
      have record : (part.entry?.isNone && part.item?.isNone) = true := by
        cases region with
        | inside position => cases position <;> first | exact fits | cases schema
        | _ => cases schema
      rcases entry_or_field step with entry | field
      · rw [entry] at record
        cases record
      · rcases fits_field field with ⟨_, notFlag, notConstant⟩
        rcases Schema.respell_amid notFlag notConstant (region.normalizeMembers before)
          (region.normalizeMembers after) with ⟨left, right, kept⟩
        refine ⟨left, right, fun value => ?_⟩
        rw [if_pos rfl, kept]

end Region

/-! ## Leaving a null out -/

/-- Whether an older spelling implies something for a keyword, given the values of
`x-nullable` and `const` in the schema, if it has them. -/
def impliesKeyword (flag constant : Option Json) : Keyword -> Bool
  | .nullable =>
      match flag with
      | some (.boolean true) => true
      | _ => false
  | .types => (constant.bind Schema.constantType?).isSome
  | .values => constant.isSome
  | _ => false

theorem implied_isSome_iff (members : Json.Members) (keyword : Keyword) :
    (Schema.implied members keyword.name).isSome = true ↔
      impliesKeyword (members.find? "x-nullable") (members.find? "const") keyword = true := by
  cases keyword with
  | nullable =>
      rw [Schema.implied_nullable]
      unfold Schema.impliedFlag impliesKeyword
      split <;> simp_all
  | types =>
      rw [Schema.implied_types, Schema.impliedType, Option.isSome_map]
      rfl
  | values =>
      rw [Schema.implied_values, Schema.impliedValues, Option.isSome_map]
      rfl
  | _ => exact Iff.rfl

/-- One value is another one in which, at one place where a schema is read, an object has
one more keyword that is bound to null.  That object has the given older spellings, and its
names are distinct; nothing is assumed about the values around it. -/
inductive HasNull (keyword : Keyword) (flag constant : Option Json) : Part -> Json -> Json -> Prop
  | here {before after : Json.Members}
      (distinct : ((before ++ (keyword.name, Json.null) :: after).map Prod.fst).Nodup)
      (flagged : Json.Members.find? (before ++ after) "x-nullable" = flag)
      (constants : Json.Members.find? (before ++ after) "const" = constant) :
      HasNull keyword flag constant .schema
        (.object (before ++ (keyword.name, .null) :: after)) (.object (before ++ after))
  | member {part inner : Part} {name : String} {one other : Json}
      (step : part.member? name = some inner) (inside : HasNull keyword flag constant inner one other)
      (before after : Json.Members) :
      HasNull keyword flag constant part (.object (before ++ (name, one) :: after))
        (.object (before ++ (name, other) :: after))
  | element {part inner : Part} {before : List Json} {one other : Json}
      (step : part.element? before.length = some inner)
      (inside : HasNull keyword flag constant inner one other) (after : List Json) :
      HasNull keyword flag constant part (.array (before ++ one :: after))
        (.array (before ++ other :: after))

/-- In a schema with the given older spellings, the keyword may as well be missing as be
bound to null: every document is read to the same result, or cannot be read either way. -/
def NullAsAbsent (keyword : Keyword) (flag constant : Option Json) : Prop :=
  forall one other : Json, HasNull keyword flag constant .document one other ->
    Agree (fromJson one) (fromJson other)

variable {keyword : Keyword} {flag constant : Option Json}

namespace Region

/-- A null does not count for the other keywords. -/
theorem spelled_amid_of_ne (region : Region) {before after : Json.Members}
    (distinct : ((before ++ (keyword.name, Json.null) :: after).map Prod.fst).Nodup)
    {other : Keyword} (apart : other ≠ keyword) :
    region.spelled (before ++ (keyword.name, .null) :: after) other =
      region.spelled (before ++ after) other := by
  have found := Json.Members.find?_amid distinct
  have otherName : other.name ≠ keyword.name :=
    fun named => apart (Schema.Keyword.name_injective named)
  have notOlder : "x-nullable" ≠ keyword.name ∧ "const" ≠ keyword.name := by
    cases keyword <;> decide
  apply spelled_congr
  · rw [found, if_neg otherName]
  · apply Schema.implied_congr
    · intro _
      rw [found, if_neg notOlder.1]
    · intro _
      rw [found, if_neg notOlder.2]

/-- Without something implied, a null and a missing member are spelled alike. -/
theorem spelled_amid_null (region : Region) {before after : Json.Members}
    (distinct : ((before ++ (keyword.name, Json.null) :: after).map Prod.fst).Nodup)
    (current : Schema.implied (before ++ after) keyword.name = none) (other : Keyword) :
    region.spelled (before ++ (keyword.name, .null) :: after) other =
      region.spelled (before ++ after) other := by
  by_cases same : other = keyword
  · subst same
    have absent : Json.Members.find? (before ++ after) other.name = none := by
      rw [Json.Members.find?_eq_none_iff]
      exact (Json.Members.nodup_amid_iff.mp distinct).1
    rw [spelled, spelled, Json.Members.value, Json.Members.value,
      Json.Members.find?_amid distinct, if_pos rfl, absent, current]
    rfl
  · exact spelled_amid_of_ne region distinct same

end Region

/-- Values that differ in a null are alike after the walk, wherever they are met. -/
theorem HasNull.alike {part : Part} {one other : Json}
    (notImplied : impliesKeyword flag constant keyword = false)
    (differ : HasNull keyword flag constant part one other) {region : Region}
    (fits : region.fits part = true) :
    part.Alike (region.normalize one) (region.normalize other) := by
  induction differ generalizing region with
  | @here before after distinct flagged constants =>
      have current : Schema.implied (before ++ after) keyword.name = none := by
        rw [← Option.not_isSome_iff_eq_none, implied_isSome_iff, flagged, constants, notImplied]
        exact Bool.false_ne_true
      have rest := (Json.Members.nodup_amid_iff.mp distinct).2
      refine ⟨?_, ?_, ?_⟩
      · rw [Region.normalize_object]
        rfl
      · rw [Region.normalize_object]
        rfl
      · refine Agree.of_ok_iff (fun keywords => ?_)
        change readKeywords _ = _ ↔ readKeywords _ = _
        rw [region.readKeywords_normalize_iff distinct, region.readKeywords_normalize_iff rest]
        simp only [region.spelled_amid_null distinct current]
  | @member part inner name one other step inside before after inductionHypothesis =>
      rcases Region.normalize_amid fits step before after with ⟨left, right, walked⟩
      rw [walked, walked]
      exact Part.alike_member step (inductionHypothesis (Region.fits_member fits step)) left right
  | @element part inner before one other step inside after inductionHypothesis =>
      rw [Region.normalize_array, Region.normalize_array, List.map_append, List.map_append,
        List.map_cons, List.map_cons]
      rw [← List.length_map (f := region.element.normalize)] at step
      exact Part.alike_element step (inductionHypothesis (Region.fits_element fits step)) _

/-- Where nothing is implied for a keyword, null says what its absence says. -/
theorem nullAsAbsent_of_not_implied (notImplied : impliesKeyword flag constant keyword = false) :
    NullAsAbsent keyword flag constant := by
  intro one other differ
  have fits : Region.document.fits .document = true := rfl
  exact (differ.alike notImplied fits).agree.mapError _

/-! ## Hidden by a null -/

/-- A document that declares one schema. -/
def onlySchema (members : Json.Members) : Json :=
  .object [("components", .object [("schemas", .object [("A", .object members)])])]

/-- What it is read as. -/
def declaring (schema : Schema) : Document :=
  ⟨.empty, some ⟨⟨[("A", schema)], List.nodup_singleton "A"⟩, .empty, .empty⟩⟩

private theorem declaring_injective {one other : Schema} (same : declaring one = declaring other) :
    one = other := by
  simpa [declaring] using same

theorem fromJson_onlySchema {members : Json.Members} {schema : Schema}
    (read : Schema.read (Schema.normalize (.object members)) = .ok schema) :
    fromJson (onlySchema members) = .ok (declaring schema) := by
  have schemas : registry Schema.read (.object [("A", Schema.normalize (.object members))]) =
      .ok ⟨[("A", schema)], List.nodup_singleton "A"⟩ := by
    rw [registry, List.mapM_cons, List.mapM_nil, read]
    rfl
  have components : readComponents
      (.object [("schemas", .object [("A", Schema.normalize (.object members))])]) =
        .ok ⟨⟨[("A", schema)], List.nodup_singleton "A"⟩, .empty, .empty⟩ := by
    change ((registry Schema.read _) >>= _) >>= _ = _
    rw [schemas]
    rfl
  have document : ofJson (onlySchema members) = .ok (declaring schema) := by
    change (((readComponents (.object [("schemas",
      .object [("A", Schema.normalize (.object members))])])).map some) >>= _) >>= _ = _
    rw [components]
    rfl
  rw [fromJson, document]
  rfl

private theorem HasNull.onlySchema {members others : Json.Members}
    (here : HasNull keyword flag constant .schema (.object members) (.object others)) :
    HasNull keyword flag constant .document (onlySchema members) (onlySchema others) := by
  have schemas : HasNull keyword flag constant .schemas (.object [("A", .object members)])
      (.object [("A", .object others)]) := .member rfl here [] []
  have components : HasNull keyword flag constant .components
      (.object [("schemas", .object [("A", .object members)])])
      (.object [("schemas", .object [("A", .object others)])]) := .member rfl schemas [] []
  exact .member rfl components [] []

/-- The older spellings, and of the keywords that they may stand for all but one, so that
nothing is implied for the others. -/
def statingOthers (flag constant : Option Json) (keyword : Keyword) : Json.Members :=
  (flag.map (fun value => ("x-nullable", value))).toList ++
    (constant.map (fun value => ("const", value))).toList ++
    [("nullable", .boolean false), ("type", .string "integer"), ("enum", .null)].filter
      (fun member => member.1 != keyword.name)

/-- The keywords that an older spelling may stand for. -/
private def implicit : List Keyword := [.nullable, .types, .values]

private theorem mem_implicit (implies : impliesKeyword flag constant keyword = true) :
    keyword ∈ implicit := by
  cases keyword with
  | nullable | types | values => decide
  | _ => cases implies

private theorem nodup_hidden (flag constant : Option Json) (hidden : keyword ∈ implicit) :
    (((keyword.name, Json.null) :: statingOthers flag constant keyword).map Prod.fst).Nodup := by
  cases keyword with
  | nullable | types | values =>
      cases flag <;> cases constant <;> simp [statingOthers, Keyword.name]
  | _ => exact absurd hidden (by decide)

/-- What is stated for the others. -/
private def stated : Keywords := { nullable := some false, types := some ["integer"] }

/-- With a null, nothing is gathered for the keyword. -/
private theorem readKeywords_hidden (flag constant : Option Json) (hidden : keyword ∈ implicit) :
    readKeywords (Schema.normalize
      (.object ((keyword.name, .null) :: statingOthers flag constant keyword))) =
        .ok (stated.set keyword none) := by
  rw [Schema.readKeywords_normalize_iff (nodup_hidden flag constant hidden)]
  intro other
  cases keyword with
  | nullable | types | values => cases flag <;> cases constant <;> cases other <;> rfl
  | _ => exact absurd hidden (by decide)

/-- Without it, what is implied is gathered. -/
private theorem readKeywords_shown (hidden : keyword ∈ implicit) {value : Json}
    (implies : Schema.implied (statingOthers flag constant keyword) keyword.name = some value)
    {content : Option keyword.Content} (read : keyword.read value = .ok content) :
    readKeywords (Schema.normalize (.object (statingOthers flag constant keyword))) =
      .ok (stated.set keyword content) := by
  have distinct := nodup_hidden flag constant hidden
  have absent := (Json.Members.find?_eq_none_iff _ _).mpr (List.nodup_cons.mp distinct).1
  rw [← Keywords.set_set stated keyword none]
  refine Schema.readKeywords_of_respelled distinct (List.nodup_cons.mp distinct).2
    (readKeywords_hidden flag constant hidden) keyword ?_ ?_
  · intro other apart
    exact (@Region.spelled_amid_of_ne keyword (.inside .schema) [] _ distinct other apart).symm
  · have spelled : (Region.inside .schema).spelled (statingOthers flag constant keyword) keyword =
        value := by
      rw [Schema.spelled_of_missing keyword absent, implies]
      rfl
    have data : Schema.normalizeIn (Position.ofMember keyword.name) value = value := by
      rw [Region.ofMember_of_implied implies]
      exact Region.normalizeIn_data value
    rw [spelled, data, read]

private theorem find?_statingOthers (flag constant : Option Json) (hidden : keyword ∈ implicit) :
    (statingOthers flag constant keyword).find? "x-nullable" = flag ∧
      (statingOthers flag constant keyword).find? "const" = constant := by
  cases keyword with
  | nullable | types | values => cases flag <;> cases constant <;> exact ⟨rfl, rfl⟩
  | _ => exact absurd hidden (by decide)

/-- A null is no absence where it hides something that makes another schema. -/
private theorem not_nullAsAbsent (hidden : keyword ∈ implicit) {value : Json}
    (implies : Schema.implied (statingOthers flag constant keyword) keyword.name = some value)
    {content : Option keyword.Content} (read : keyword.read value = .ok content)
    (differ : (stated.set keyword none).toSchema ≠ (stated.set keyword content).toSchema) :
    ¬ NullAsAbsent keyword flag constant := by
  intro same
  have older := find?_statingOthers flag constant hidden
  have here : HasNull keyword flag constant .schema
      (.object ((keyword.name, .null) :: statingOthers flag constant keyword))
      (.object (statingOthers flag constant keyword)) :=
    @HasNull.here keyword flag constant [] _ (nodup_hidden flag constant hidden) older.1 older.2
  have hiddenRead := (Schema.read_normalize_iff _ _).mpr
    ⟨_, readKeywords_hidden flag constant hidden, rfl⟩
  have shownRead := (Schema.read_normalize_iff _ _).mpr
    ⟨_, readKeywords_shown hidden implies read, rfl⟩
  have agree := same _ _ here.onlySchema
  rw [fromJson_onlySchema hiddenRead, fromJson_onlySchema shownRead] at agree
  exact differ (declaring_injective (Except.ok.inj (agree.eq_ok rfl)).symm)

private theorem eq_of_implies_nullable (implies : impliesKeyword flag constant .nullable = true) :
    flag = some (.boolean true) := by
  cases flag with
  | none => cases implies
  | some value =>
      cases value with
      | boolean value =>
          cases value with
          | true => rfl
          | false => cases implies
      | _ => cases implies

/-- The type of a constant is a type that makes a form. -/
private theorem toSchema_constantType_ne {value : Json} {type : String}
    (typed : Schema.constantType? value = some type) :
    (stated.set .types none).toSchema ≠ (stated.set .types (some [type])).toSchema := by
  cases value with
  | number value =>
      cases value with
      | integer value =>
          cases typed
          nofun
      | real value =>
          cases typed
          nofun
  | array items => cases typed
  | object members => cases typed
  | _ =>
      cases typed
      nofun

/-- Whatever is implied for a keyword is hidden by a null. -/
theorem not_nullAsAbsent_of_implied (implies : impliesKeyword flag constant keyword = true) :
    ¬ NullAsAbsent keyword flag constant := by
  have hidden := mem_implicit implies
  have older := find?_statingOthers flag constant hidden
  cases keyword with
  | nullable =>
      have given : Schema.implied (statingOthers flag constant .nullable) Keyword.nullable.name =
          some (.boolean true) := by
        rw [Schema.implied_nullable, Schema.impliedFlag, older.1, eq_of_implies_nullable implies]
      have read : Keyword.nullable.read (.boolean true) = .ok (some true) := rfl
      exact not_nullAsAbsent hidden given read Schema.noConfusion
  | types =>
      rcases Option.isSome_iff_exists.mp implies with ⟨type, typed⟩
      have given : Schema.implied (statingOthers flag constant .types) Keyword.types.name =
          some (.string type) := by
        rw [Schema.implied_types, Schema.impliedType, older.2, typed]
        rfl
      have read : Keyword.types.read (.string type) = .ok (some [type]) := rfl
      rcases Option.bind_eq_some_iff.mp typed with ⟨value, _, ofValue⟩
      exact not_nullAsAbsent hidden given read (toSchema_constantType_ne ofValue)
  | values =>
      rcases Option.isSome_iff_exists.mp implies with ⟨value, present⟩
      have given : Schema.implied (statingOthers flag constant .values) Keyword.values.name =
          some (.array [value]) := by
        rw [Schema.implied_values, Schema.impliedValues, older.2, present]
        rfl
      have read : Keyword.values.read (.array [value]) = .ok (some [value]) := rfl
      exact not_nullAsAbsent hidden given read Schema.noConfusion
  | _ => cases implies

/-- A null can be left out exactly where no older spelling implies something for the
keyword. -/
theorem nullAsAbsent_iff (keyword : Keyword) (flag constant : Option Json) :
    NullAsAbsent keyword flag constant ↔ impliesKeyword flag constant keyword = false := by
  constructor
  · intro same
    rw [← Bool.not_eq_true]
    intro implies
    exact not_nullAsAbsent_of_implied implies same
  · exact nullAsAbsent_of_not_implied

/-- A constant is dropped beside an enumeration that is null, and kept without it. -/
theorem fromJson_constant_nullEnum :
    fromJson (onlySchema [("const", .string "a"), ("enum", .null)]) =
        .ok (declaring (.primitive .string none)) ∧
      fromJson (onlySchema [("const", .string "a")]) =
        .ok (declaring (.enumeration [.string "a"])) :=
  ⟨fromJson_onlySchema rfl, fromJson_onlySchema rfl⟩

end Document
end OpenApiTypes
