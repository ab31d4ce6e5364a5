import OpenApiTypes.Proofs.Document.NormalForm
import OpenApiTypes.Proofs.Schema.KeywordReading

namespace OpenApiTypes
namespace Document

open Schema (Keyword Keywords Position normalizeIn respell readKeywords)

/-!
# How normalized schemas are read

A schema object is read after the walk over the document.  What is read for a keyword is
the value that the object has for it, or else what an older spelling implies, with the
subschemas of that value normalized.  In this form nothing is said about the order of the
members, which the walk changes.
-/

variable {members : Json.Members}

namespace Region

/-- The value of a keyword in an object of a region, before the walk over that value.  Only
in a schema do the older spellings count, and only where the keyword is missing. -/
def spelled (region : Region) (members : Json.Members) (keyword : Keyword) : Json :=
  if region.holdsSchema then
    ((members.find? keyword.name).or (Schema.implied members keyword.name)).getD .null
  else members.value keyword.name

/-- What is spelled for a keyword depends on the member of its name and on what is implied. -/
theorem spelled_congr (region : Region) {others : Json.Members} {keyword : Keyword}
    (found : others.find? keyword.name = members.find? keyword.name)
    (added : Schema.implied others keyword.name = Schema.implied members keyword.name) :
    region.spelled others keyword = region.spelled members keyword := by
  rw [spelled, spelled, Json.Members.value, Json.Members.value, found, added]

/-- The walk does not touch the older spellings. -/
theorem implied_normalizeMembers {region : Region} (schema : region.holdsSchema = true)
    (members : Json.Members) (name : String) :
    Schema.implied (region.normalizeMembers members) name = Schema.implied members name := by
  have kept (old : String) (data : Position.ofMember old = .data) :
      (region.normalizeMembers members).find? old = members.find? old := by
    have inside : region.member old = .inside .data := by
      rw [member_of_holdsSchema schema, data]
    rw [find?_normalizeMembers, inside]
    cases members.find? old with
    | none => rfl
    | some value => rw [Option.map_some, normalize_data]
  rw [Schema.implied, Schema.implied, Schema.impliedFlag, Schema.impliedType, Schema.impliedValues,
    kept "x-nullable" (by decide), kept "const" (by decide)]
  rfl

/-- What an older spelling implies is not changed by the walk. -/
theorem map_normalize_implied {region : Region} (schema : region.holdsSchema = true)
    (members : Json.Members) (name : String) :
    (Schema.implied members name).map (region.member name).normalize =
      Schema.implied members name := by
  cases added : Schema.implied members name with
  | none => rfl
  | some value =>
      rw [member_of_holdsSchema schema, ofMember_of_implied added, Option.map_some, normalize_data]

theorem value_respelled (region : Region) (distinct : (members.map Prod.fst).Nodup)
    (keyword : Keyword) :
    (region.respelled (region.normalizeMembers members)).value keyword.name =
      (region.member keyword.name).normalize (region.spelled members keyword) := by
  have null (found : Option Json) :
      (found.map (region.member keyword.name).normalize).getD .null =
        (region.member keyword.name).normalize (found.getD .null) := by
    cases found with
    | none => exact (normalize_null _).symm
    | some value => rfl
  rw [Json.Members.value, respelled, spelled]
  cases schema : region.holdsSchema with
  | false =>
      rw [if_neg Bool.false_ne_true, if_neg Bool.false_ne_true, find?_normalizeMembers, null,
        Json.Members.value]
  | true =>
      have current : ¬ (keyword.name = "x-nullable" ∨ keyword.name = "const") := by
        cases keyword <;> decide
      rw [if_pos rfl, if_pos rfl, Schema.find?_respell (by rwa [names_normalizeMembers]),
        if_neg current, find?_normalizeMembers, implied_normalizeMembers schema,
        ← map_normalize_implied schema, ← Option.map_or, null,
        map_normalize_implied schema]

/-- The keywords of a schema object after the walk: each one is read from what is spelled
for it. -/
theorem readKeywords_normalize_iff (region : Region) (distinct : (members.map Prod.fst).Nodup)
    (result : Keywords) :
    readKeywords (region.normalize (.object members)) = .ok result ↔
      forall keyword : Keyword,
        keyword.read ((region.member keyword.name).normalize (region.spelled members keyword)) =
          .ok (result.get keyword) := by
  have names : ((region.respelled (region.normalizeMembers members)).map Prod.fst).Nodup := by
    rw [← names_normalizeMembers region] at distinct
    unfold respelled
    split
    · exact Schema.nodup_respell distinct
    · exact distinct
  rw [normalize_object, Schema.readKeywords_object_iff names]
  simp only [value_respelled region distinct]

end Region
end Document

namespace Schema

theorem implied_nullable (members : Json.Members) :
    implied members Keyword.nullable.name = impliedFlag members := rfl

theorem implied_types (members : Json.Members) :
    implied members Keyword.types.name = impliedType members := rfl

theorem implied_values (members : Json.Members) :
    implied members Keyword.values.name = impliedValues members := rfl

variable {members others : Json.Members} {keywords : Keywords}

theorem spelled_of_stated (keyword : Keyword) {value : Json}
    (stated : members.find? keyword.name = some value) :
    (Document.Region.inside .schema).spelled members keyword = value := by
  rw [Document.Region.spelled, stated]
  rfl

theorem spelled_of_missing (keyword : Keyword) (missing : members.find? keyword.name = none) :
    (Document.Region.inside .schema).spelled members keyword =
      (implied members keyword.name).getD .null := by
  rw [Document.Region.spelled, missing]
  rfl

/-- A schema is read from the keywords that are gathered after normalization. -/
theorem read_normalize_iff (members : Json.Members) (schema : Schema) :
    Schema.read (normalize (.object members)) = .ok schema ↔
      Exists fun keywords : Keywords =>
        readKeywords (normalize (.object members)) = .ok keywords ∧
          keywords.toSchema = schema :=
  read_eq_ok_iff _ schema

/-- The keywords of a schema object after normalization. -/
theorem readKeywords_normalize_iff (distinct : (members.map Prod.fst).Nodup)
    (result : Keywords) :
    readKeywords (normalize (.object members)) = .ok result ↔
      forall keyword : Keyword,
        keyword.read (normalizeIn (Position.ofMember keyword.name)
            ((Document.Region.inside .schema).spelled members keyword)) =
          .ok (result.get keyword) :=
  Document.Region.readKeywords_normalize_iff (.inside .schema) distinct result

/-- What is read for a keyword, from the value that is spelled for it. -/
theorem get_of_spelled (distinct : (members.map Prod.fst).Nodup)
    (read : readKeywords (normalize (.object members)) = .ok keywords) {keyword : Keyword}
    {content : Option keyword.Content}
    (spelled : keyword.read (normalizeIn (Position.ofMember keyword.name)
      ((Document.Region.inside .schema).spelled members keyword)) = .ok content) :
    keywords.get keyword = content := by
  have here := (readKeywords_normalize_iff distinct keywords).mp read keyword
  rw [spelled] at here
  exact (Except.ok.inj here).symm

/-- Nothing is gathered for a keyword exactly when null, or nothing, is spelled for it. -/
theorem get_eq_none_iff (distinct : (members.map Prod.fst).Nodup)
    (read : readKeywords (normalize (.object members)) = .ok keywords) (keyword : Keyword) :
    keywords.get keyword = none ↔
      (Document.Region.inside .schema).spelled members keyword = .null := by
  have here := (readKeywords_normalize_iff distinct keywords).mp read keyword
  constructor
  · intro nothing
    by_contra given
    have kept : normalizeIn (Position.ofMember keyword.name)
        ((Document.Region.inside .schema).spelled members keyword) ≠ .null :=
      fun null => given ((Document.Region.normalize_eq_null_iff (.inside _) _).mp null)
    have said := Keyword.isSome_of_read kept here
    rw [nothing] at said
    cases said
  · intro null
    have kept : normalizeIn (Position.ofMember keyword.name) .null = .null :=
      Document.Region.normalize_null (.inside _)
    apply get_of_spelled distinct read
    rw [null, kept, Keyword.read_null]

/-- A schema object in which one keyword is spelled another way is read alike but for that
keyword. -/
theorem readKeywords_of_respelled (distinct : (members.map Prod.fst).Nodup)
    (othersDistinct : (others.map Prod.fst).Nodup)
    (read : readKeywords (normalize (.object members)) = .ok keywords) (keyword : Keyword)
    (same : forall other : Keyword, other ≠ keyword ->
      (Document.Region.inside .schema).spelled others other =
        (Document.Region.inside .schema).spelled members other)
    {content : Option keyword.Content}
    (here : keyword.read (normalizeIn (Position.ofMember keyword.name)
      ((Document.Region.inside .schema).spelled others keyword)) = .ok content) :
    readKeywords (normalize (.object others)) = .ok (keywords.set keyword content) := by
  rw [readKeywords_normalize_iff distinct] at read
  rw [readKeywords_normalize_iff othersDistinct]
  intro other
  by_cases equal : other = keyword
  · subst equal
    rw [here, Keywords.get_set]
  · rw [same other equal, read other, Keywords.get_set_of_ne _ equal]

end Schema
end OpenApiTypes
