import OpenApiTypes.Proofs.Document.EntryNames
import OpenApiTypes.Proofs.Schema.Respelling

namespace OpenApiTypes
namespace Document

open Schema (Position normalizeIn respell)

/-!
# The normal form of a document

Normalization walks over a document in four functions, of which each leaves some values to
another one.  Here they are seen as one walk that always knows the region it is in: the
region of a value decides what becomes of it, and which regions its members and items are
in.  A value is normal in a region when it has nothing that the walk would change there.

What the walk makes of a value is normal, and it leaves normal values as they are, with
their order.  No step of it makes work for another one: what a respelling adds is data, and
the regions of members depend on their names alone, which stay.
-/

/-! ## Regions -/

/-- Where a value stands in a document, as far as normalization is concerned. -/
inductive Region where
  /-- The document itself. -/
  | document
  /-- The component registries. -/
  | components
  /-- The registry of the component schemas. -/
  | schemas
  /-- Outside schemas, and inside of records that hold some. -/
  | fields
  /-- Inside of a schema. -/
  | inside (position : Position)
deriving DecidableEq

namespace Region

/-- What becomes of a value in a region. -/
def normalize (region : Region) (value : Json) : Json :=
  match region, value with
  | .document, value => Schema.normalizeDocument value
  | .components, .object members => .object (members.map Schema.normalizeComponent)
  | .components, value => value
  | .schemas, .object entries =>
      .object (entries.map (fun entry => (entry.1, Schema.normalize entry.2)))
  | .schemas, value => Schema.normalizeFields value
  | .fields, value => Schema.normalizeFields value
  | .inside position, value => normalizeIn position value

/-- The region of a member of an object in a region. -/
def member : Region -> String -> Region
  | .document, name => if name = "components" then .components else .fields
  | .components, name => if name = "schemas" then .schemas else .fields
  | .schemas, _ => .inside .schema
  | .fields, name =>
      if name = "schema" then .inside .schema
      else if name = "example" || name = "examples" then .inside .data
      else .fields
  | .inside .schema, name => .inside (Position.ofMember name)
  | .inside .schemaOrFlag, name => .inside (Position.ofMember name)
  | .inside .named, _ => .inside .schema
  | .inside _, _ => .inside .data

/-- The region of an item of an array in a region. -/
def element : Region -> Region
  | .schemas => .fields
  | .fields => .fields
  | .inside .schemas => .inside .schema
  | _ => .inside .data

/-- Whether an object in the region is a schema. -/
def holdsSchema : Region -> Bool
  | .inside .schema => true
  | .inside .schemaOrFlag => true
  | _ => false

/-- The members of an object in a region after the walk over them: those of a schema are
respelled. -/
def respelled (region : Region) (members : Json.Members) : Json.Members :=
  if region.holdsSchema then respell members else members

/-- The members of an object in a region, each normalized in its own region. -/
def normalizeMembers (region : Region) (members : Json.Members) : Json.Members :=
  members.map (fun one => (one.1, (region.member one.1).normalize one.2))

/-! ## One step of the walk -/

theorem normalizeIn_data (value : Json) : normalizeIn .data value = value := by
  cases value <;> rfl

@[simp] theorem normalize_data (value : Json) : (inside .data).normalize value = value :=
  normalizeIn_data value

private theorem normalizeEach_eq_map (items : List Json) :
    Schema.normalizeEach items = items.map Schema.normalize := by
  induction items with
  | nil => rfl
  | cons item rest inductionHypothesis =>
      rw [Schema.normalizeEach, inductionHypothesis]
      rfl

private theorem normalizeNamed_eq_map (members : Json.Members) :
    Schema.normalizeNamed members =
      members.map (fun one => (one.1, Schema.normalize one.2)) := by
  induction members with
  | nil => rfl
  | cons one rest inductionHypothesis =>
      rw [Schema.normalizeNamed, inductionHypothesis]
      rfl

private theorem normalizeKeyed_eq_map (members : Json.Members) :
    Schema.normalizeKeyed members =
      members.map (fun one => (one.1, normalizeIn (Position.ofMember one.1) one.2)) := by
  induction members with
  | nil => rfl
  | cons one rest inductionHypothesis =>
      rw [Schema.normalizeKeyed, inductionHypothesis]
      rfl

private theorem normalizeFieldItems_eq_map (items : List Json) :
    Schema.normalizeFieldItems items = items.map Schema.normalizeFields := by
  induction items with
  | nil => rfl
  | cons item rest inductionHypothesis =>
      rw [Schema.normalizeFieldItems, inductionHypothesis]
      rfl

private theorem normalizeField_eq (name : String) :
    normalizeField name = (fields.member name).normalize := by
  funext value
  by_cases schema : name = "schema"
  · rw [normalizeField, member, if_pos schema, if_pos schema]
    rfl
  · rw [normalizeField, member, if_neg schema, if_neg schema]
    by_cases data : (name = "example" || name = "examples") = true
    · rw [if_pos data, if_pos data, normalize_data]
    · rw [if_neg data, if_neg data]
      rfl

private theorem normalizeRoot_eq (one : String × Json) :
    Schema.normalizeRoot one = (one.1, (document.member one.1).normalize one.2) := by
  rcases one with ⟨name, value⟩
  by_cases components : name = "components"
  · subst components
    cases value <;> rfl
  · have other : Schema.normalizeRoot (name, value) = (name, Schema.normalizeFields value) := by
      unfold Schema.normalizeRoot
      split
      · cases ‹(name, value) = _›
        exact absurd rfl components
      · cases ‹(name, value) = _›
        exact absurd rfl components
      · cases ‹(name, value) = _›
        rfl
    rw [other, member, if_neg components]
    rfl

private theorem normalizeComponent_eq (one : String × Json) :
    Schema.normalizeComponent one = (one.1, (components.member one.1).normalize one.2) := by
  rcases one with ⟨name, value⟩
  by_cases schemas : name = "schemas"
  · subst schemas
    cases value <;> rfl
  · have other : Schema.normalizeComponent (name, value) =
        (name, Schema.normalizeFields value) := by
      unfold Schema.normalizeComponent
      split
      · cases ‹(name, value) = _›
        exact absurd rfl schemas
      · cases ‹(name, value) = _›
        rfl
    rw [other, member, if_neg schemas]
    rfl

/-- An array is normalized item by item. -/
theorem normalize_array (region : Region) (items : List Json) :
    region.normalize (.array items) = .array (items.map region.element.normalize) := by
  have kept : items.map (inside .data).normalize = items := by
    rw [List.map_congr_left (fun item _ => normalize_data item), List.map_id']
  have fields : Schema.normalizeFields (.array items) =
      .array (items.map Schema.normalizeFields) := by
    rw [Schema.normalizeFields, normalizeFieldItems_eq_map]
  cases region with
  | document => exact congrArg Json.array kept.symm
  | components => exact congrArg Json.array kept.symm
  | schemas => exact fields
  | fields => exact fields
  | inside position =>
      cases position with
      | schemas => exact congrArg Json.array (normalizeEach_eq_map items)
      | schema => exact congrArg Json.array kept.symm
      | named => exact congrArg Json.array kept.symm
      | schemaOrFlag => exact congrArg Json.array kept.symm
      | data => exact congrArg Json.array kept.symm

/-- An object is normalized member by member, and then respelled if it is a schema. -/
theorem normalize_object (region : Region) (members : Json.Members) :
    region.normalize (.object members) =
      .object (region.respelled (region.normalizeMembers members)) := by
  have kept : members.map (fun one => (one.1, (inside .data).normalize one.2)) = members := by
    simp only [normalize_data, List.map_id']
  have schema : normalizeIn .schema (.object members) =
      .object (respell (members.map fun one =>
        (one.1, normalizeIn (Position.ofMember one.1) one.2))) := by
    rw [normalizeIn, normalizeKeyed_eq_map]
    rfl
  cases region with
  | document =>
      exact congrArg Json.object (List.map_congr_left fun one _ => normalizeRoot_eq one)
  | components =>
      exact congrArg Json.object (List.map_congr_left fun one _ => normalizeComponent_eq one)
  | schemas => rfl
  | fields =>
      change Schema.normalizeFields (.object members) = _
      rw [Schema.normalizeFields, normalizeFieldMembers_eq_map]
      simp only [normalizeField_eq]
      rfl
  | inside position =>
      cases position with
      | schema => exact schema
      | schemaOrFlag => exact schema
      | named => exact congrArg Json.object (normalizeNamed_eq_map members)
      | schemas => exact congrArg Json.object kept.symm
      | data => exact congrArg Json.object kept.symm

/-- A truth value is only changed where it is a schema. -/
theorem normalize_boolean {region : Region} (apart : region ≠ inside .schema) (value : Bool) :
    region.normalize (.boolean value) = .boolean value := by
  cases region with
  | inside position =>
      cases position with
      | schema => exact absurd rfl apart
      | _ => rfl
  | _ => rfl

@[simp] theorem normalize_null (region : Region) : region.normalize .null = .null := by
  cases region with
  | inside position => cases position <;> rfl
  | _ => rfl

@[simp] theorem normalize_number (region : Region) (value : Json.Number) :
    region.normalize (.number value) = .number value := by
  cases region with
  | inside position => cases position <;> rfl
  | _ => rfl

@[simp] theorem normalize_string (region : Region) (value : String) :
    region.normalize (.string value) = .string value := by
  cases region with
  | inside position => cases position <;> rfl
  | _ => rfl

theorem normalize_eq_null_iff (region : Region) (value : Json) :
    region.normalize value = .null ↔ value = .null := by
  constructor
  · intro null
    cases value with
    | null => rfl
    | boolean value =>
        by_cases schema : region = inside .schema
        · subst schema
          cases null
        · rw [normalize_boolean schema] at null
          cases null
    | number value =>
        rw [normalize_number] at null
        cases null
    | string value =>
        rw [normalize_string] at null
        cases null
    | array items =>
        rw [normalize_array] at null
        cases null
    | object members =>
        rw [normalize_object] at null
        cases null
  · rintro rfl
    exact normalize_null region

@[simp] theorem names_normalizeMembers (region : Region) (members : Json.Members) :
    (region.normalizeMembers members).map Prod.fst = members.map Prod.fst := by
  rw [normalizeMembers, List.map_map]
  rfl

theorem find?_normalizeMembers (region : Region) (members : Json.Members) (name : String) :
    (region.normalizeMembers members).find? name =
      (members.find? name).map (region.member name).normalize :=
  Json.Members.find?_map (fun name => (region.member name).normalize) members name

/-! ## Normal values -/

/-- The value has nothing that would be changed in the region: no schema is a truth value,
and none has a member in an older spelling. -/
inductive Normal : Region -> Json -> Prop
  | null (region : Region) : Normal region .null
  | boolean {region : Region} (apart : region ≠ inside .schema) (value : Bool) :
      Normal region (.boolean value)
  | number (region : Region) (value : Json.Number) : Normal region (.number value)
  | string (region : Region) (value : String) : Normal region (.string value)
  | array {region : Region} {items : List Json}
      (each : ∀ item ∈ items, Normal region.element item) : Normal region (.array items)
  | object {region : Region} {members : Json.Members}
      (respelt : region.holdsSchema = true ->
        "x-nullable" ∉ members.map Prod.fst ∧ "const" ∉ members.map Prod.fst)
      (each : ∀ one ∈ members, Normal (region.member one.1) one.2) :
      Normal region (.object members)

/-- The walk leaves a normal value as it is. -/
theorem normalize_of_normal {region : Region} {value : Json} (normal : region.Normal value) :
    region.normalize value = value := by
  induction normal with
  | null => exact normalize_null _
  | boolean apart => exact normalize_boolean apart _
  | number => exact normalize_number _ _
  | string => exact normalize_string _ _
  | array each inductionHypothesis =>
      rw [normalize_array, List.map_congr_left inductionHypothesis, List.map_id']
  | @object region members respelt each inductionHypothesis =>
      have kept : region.normalizeMembers members = members := by
        have same : ∀ one ∈ members, (one.1, (region.member one.1).normalize one.2) = one := by
          intro one present
          rw [inductionHypothesis one present]
        rw [normalizeMembers, List.map_congr_left same, List.map_id']
      rw [normalize_object, kept, respelled]
      split
      · have absent := respelt ‹_›
        rw [Schema.respell_eq_self absent.1 absent.2]
      · rfl

/-- Whatever is data is normal. -/
theorem Normal.of_data (value : Json) : (inside .data).Normal value := by
  induction value with
  | null => exact .null _
  | boolean value => exact .boolean (by decide) value
  | number value => exact .number _ value
  | string value => exact .string _ value
  | array items inductionHypothesis => exact .array inductionHypothesis
  | object members inductionHypothesis => exact .object nofun inductionHypothesis

/-- The regions of the members of a schema. -/
theorem member_of_holdsSchema {region : Region} (schema : region.holdsSchema = true)
    (name : String) : region.member name = inside (Position.ofMember name) := by
  cases region with
  | inside position => cases position <;> first | rfl | cases schema
  | _ => cases schema

/-- What an older spelling implies stands where a schema has data. -/
theorem ofMember_of_implied {members : Json.Members} {name : String} {value : Json}
    (given : Schema.implied members name = some value) : Position.ofMember name = .data := by
  unfold Schema.implied at given
  split at given
  · subst name
    decide
  · split at given
    · subst name
      decide
    · split at given
      · subst name
        decide
      · cases given

/-- A respelled schema is normal when its members are. -/
private theorem normal_respell {region : Region} (schema : region.holdsSchema = true)
    {members : Json.Members} (names : (members.map Prod.fst).Nodup)
    (each : ∀ one ∈ members, (region.member one.1).Normal one.2) :
    region.Normal (.object (respell members)) := by
  have found := Schema.find?_respell names
  have distinct := Schema.nodup_respell names
  refine .object (fun _ => ⟨?_, ?_⟩) ?_
  · rw [← Json.Members.find?_eq_none_iff, found]
    rfl
  · rw [← Json.Members.find?_eq_none_iff, found]
    rfl
  · rintro ⟨name, value⟩ present
    rw [← Json.Members.find?_eq_some_iff distinct, found] at present
    by_cases old : name = "x-nullable" ∨ name = "const"
    · rw [if_pos old] at present
      cases present
    · rw [if_neg old, Option.or_eq_some_iff] at present
      rcases present with own | ⟨_, added⟩
      · exact each _ ((Json.Members.find?_eq_some_iff names name value).mp own)
      · simp only [member_of_holdsSchema schema, ofMember_of_implied added]
        exact .of_data value

/-- What the walk makes of a value is normal. -/
theorem normal_normalize {value : Json} (distinct : value.Distinct) (region : Region) :
    region.Normal (region.normalize value) := by
  induction distinct generalizing region with
  | null => rw [normalize_null]; exact .null region
  | boolean value =>
      by_cases schema : region = inside .schema
      · subst schema
        exact .object (fun _ => ⟨List.not_mem_nil, List.not_mem_nil⟩) nofun
      · rw [normalize_boolean schema]
        exact .boolean schema value
  | number value => rw [normalize_number]; exact .number region value
  | string value => rw [normalize_string]; exact .string region value
  | array inside inductionHypothesis =>
      rw [normalize_array]
      refine .array ?_
      intro made present
      rcases List.mem_map.mp present with ⟨item, stored, rfl⟩
      exact inductionHypothesis item stored _
  | @object members names inside inductionHypothesis =>
      have each : ∀ one ∈ region.normalizeMembers members, (region.member one.1).Normal one.2 := by
        intro made present
        rcases List.mem_map.mp present with ⟨one, stored, rfl⟩
        exact inductionHypothesis one stored _
      rw [normalize_object, respelled]
      cases schema : region.holdsSchema with
      | true =>
          rw [← names_normalizeMembers region] at names
          exact normal_respell schema names each
      | false => exact .object (by rw [schema]; nofun) each

/-- Normal values are those that the walk leaves as they are. -/
theorem normalize_eq_self_iff {value : Json} (distinct : value.Distinct) (region : Region) :
    region.normalize value = value ↔ region.Normal value := by
  constructor
  · intro same
    rw [← same]
    exact normal_normalize distinct region
  · exact normalize_of_normal

end Region

/-! ## Documents and schemas -/

/-- Normalization makes documents and schemas normal, and changes those that are not.  A
second time it changes nothing, neither a value nor an order, so a document is read like
its normal form. -/
theorem normalization_idempotent {value : Json} (distinct : value.Distinct) :
    (Schema.normalizeDocument (Schema.normalizeDocument value) = Schema.normalizeDocument value ∧
        (Schema.normalizeDocument value = value ↔ Region.document.Normal value)) ∧
      (Schema.normalize (Schema.normalize value) = Schema.normalize value ∧
        (Schema.normalize value = value ↔ (Region.inside .schema).Normal value)) ∧
      fromJson (Schema.normalizeDocument value) = fromJson value := by
  have again (region : Region) :
      region.normalize (region.normalize value) = region.normalize value :=
    Region.normalize_of_normal (Region.normal_normalize distinct region)
  have document := again .document
  have read : fromJson (Schema.normalizeDocument value) = fromJson value := by
    change Except.mapError _ (readNormalized _) = Except.mapError _ (readNormalized _)
    exact congrArg (fun json => Except.mapError _ (readNormalized json)) document
  exact ⟨⟨document, Region.normalize_eq_self_iff distinct .document⟩,
    ⟨again (.inside .schema), Region.normalize_eq_self_iff distinct (.inside .schema)⟩, read⟩

/-- A constant that the older flag makes nullable, beside a schema that is a truth value. -/
theorem normalization_idempotent_flaggedConstant :
    fromJson (Schema.normalizeDocument (.object [("components", .object [("schemas", .object [
        ("Kind", .object [("x-nullable", .boolean true), ("const", .string "a")]),
        ("Any", .boolean true)])])])) =
      fromJson (.object [("components", .object [("schemas", .object [
        ("Kind", .object [("x-nullable", .boolean true), ("const", .string "a")]),
        ("Any", .boolean true)])])]) :=
  (normalization_idempotent (by simp)).2.2

end Document
end OpenApiTypes
