import OpenApiTypes.Proofs.Document.NormalizedSchemas
import OpenApiTypes.TypeScript.Synthesis

namespace OpenApiTypes
namespace Schema

/-!
# Three spellings of nullability

A schema object says that it admits null by `nullable`, by the older `x-nullable`, or by
null among its types.  An object that says nothing of the kind can be made nullable in any
of these ways, whatever else it says, and the outcome is the same: the schema that it gave
before, or null.  For a type that is written as a list of several names, that schema is the
union of those that the names give one by one.

A constant can imply the type null, but no constant makes the schema nullable: null as the
only type is a type of its own.
-/

/-! ## What decides nullability and types -/

private theorem filter_of_not_mem {types : List String} (absent : "null" ∉ types) :
    types.filter (fun type => type != "null") = types := by
  rw [List.filter_eq_self]
  intro type member
  rw [bne_iff_ne]
  rintro rfl
  exact absent member

/-- The keywords that decide a form before the types do. -/
def Keyword.composing : List Keyword := [.reference, .oneOf, .allOf, .anyOf]

namespace Keywords

variable {keywords : Keywords}

/-- No reference and no composition has been gathered. -/
structure IsPlain (keywords : Keywords) : Prop where
  reference : keywords.reference = none
  oneOf : keywords.oneOf = none
  allOf : keywords.allOf = none
  anyOf : keywords.anyOf = none

theorem isPlain_iff (keywords : Keywords) :
    keywords.IsPlain ↔ ∀ keyword ∈ Keyword.composing, keywords.get keyword = none := by
  constructor
  · rintro ⟨reference, oneOf, allOf, anyOf⟩
    simp [Keyword.composing, get, reference, oneOf, allOf, anyOf]
  · intro nothing
    exact ⟨nothing .reference (by decide), nothing .oneOf (by decide), nothing .allOf (by decide),
      nothing .anyOf (by decide)⟩

/-- The types that decide the form are those other than null, if there are any. -/
theorem effectiveTypes_eq {others : List String}
    (left : (keywords.types.getD []).filter (fun type => type != "null") = others)
    (given : others ≠ []) : keywords.effectiveTypes = others := by
  rw [effectiveTypes, left]
  cases others with
  | nil => exact absurd rfl given
  | cons type rest => rfl

theorem effectiveTypes_of_not_mem (absent : "null" ∉ keywords.types.getD []) :
    keywords.effectiveTypes = keywords.types.getD [] := by
  have kept := filter_of_not_mem absent
  cases declared : keywords.types.getD [] with
  | nil => rw [effectiveTypes, declared]; rfl
  | cons type rest =>
      rw [declared] at kept
      exact effectiveTypes_eq (by rw [declared, kept]) (List.cons_ne_nil type rest)

/-- Unless null is one of several types, only the flag makes a schema nullable. -/
theorem admitsNull_of_plain
    (plain : (keywords.types.getD []).length = 1 ∨ "null" ∉ keywords.types.getD []) :
    keywords.admitsNull = keywords.nullable.getD false := by
  have absent_or_only : "null" ∉ keywords.types.getD [] ∨ keywords.types.getD [] = ["null"] := by
    rcases plain with single | absent
    · rcases List.length_eq_one_iff.mp single with ⟨type, only⟩
      rw [only]
      by_cases null : type = "null"
      · exact .inr (by rw [null])
      · exact .inl (by simpa using Ne.symm null)
    · exact .inl absent
  rw [admitsNull]
  rcases absent_or_only with absent | only
  · rw [filter_of_not_mem absent]
    simp
  · rw [only]
    simp

/-- The flag makes a schema nullable, and does nothing else. -/
theorem toSchema_set_nullable (keywords : Keywords) :
    (keywords.set .nullable (some true)).toSchema =
      .nullable (keywords.form keywords.effectiveTypes) := rfl

/-- Null among other types makes a schema nullable, and is no type of its own. -/
theorem toSchema_set_types_null {first last : List String} (absent : "null" ∉ first ++ last)
    (given : first ++ last ≠ []) :
    (keywords.set .types (some (first ++ "null" :: last))).toSchema =
      .nullable (keywords.form (first ++ last)) := by
  have declared : (keywords.set .types (some (first ++ "null" :: last))).types.getD [] =
      first ++ "null" :: last := rfl
  have left : (first ++ "null" :: last).filter (fun type => type != "null") = first ++ last := by
    rw [List.filter_append, List.filter_cons_of_neg (by decide), ← List.filter_append,
      filter_of_not_mem absent]
  have nullable : (keywords.set .types (some (first ++ "null" :: last))).admitsNull = true := by
    rw [admitsNull, declared, left]
    simp [given]
  rw [toSchema, nullable, effectiveTypes_eq (by rw [declared, left]) given]
  rfl

/-- Without null among its types and without a flag, a schema is its form. -/
theorem toSchema_of_plain (flag : keywords.nullable = none)
    (plain : (keywords.types.getD []).length = 1 ∨ "null" ∉ keywords.types.getD []) :
    keywords.toSchema = keywords.form keywords.effectiveTypes := by
  rw [toSchema, admitsNull_of_plain plain, flag]
  rfl

/-- A single type decides the form, also when it is null. -/
theorem toSchema_set_types_single (flag : keywords.nullable = none) (type : String) :
    (keywords.set .types (some [type])).toSchema = keywords.form [type] := by
  have single : (keywords.set .types (some [type])).types.getD [] = [type] := rfl
  have effective : (keywords.set .types (some [type])).effectiveTypes = [type] := by
    by_cases null : type = "null"
    · subst null
      rfl
    · refine (effectiveTypes_of_not_mem ?_).trans single
      rw [single, List.mem_singleton]
      exact Ne.symm null
  have kept : (keywords.set .types (some [type])).nullable = none := flag
  have plain := toSchema_of_plain kept (.inl (congrArg List.length single))
  rw [effective] at plain
  exact plain

/-- The form for several types is the union of the forms for each of them. -/
theorem form_of_several {types : List String} (several : 2 ≤ types.length)
    (plain : keywords.IsPlain) :
    keywords.form types = .oneOf (types.map keywords.typedForm) := by
  rcases plain with ⟨reference, oneOf, allOf, anyOf⟩
  rw [form, reference, oneOf, allOf, anyOf]
  · rintro rfl
    cases several
  · rintro type rfl
    cases Nat.le_of_succ_le_succ several

theorem form_of_single (type : String) (plain : keywords.IsPlain) :
    keywords.form [type] = keywords.typedForm type := by
  rcases plain with ⟨reference, oneOf, allOf, anyOf⟩
  rw [form, reference, oneOf, allOf, anyOf]

end Keywords

/-- The type of a nullable schema is the type of the schema, or null. -/
theorem typeText_nullable (context : TypeScript.TypeContext) (schema : Schema) :
    TypeScript.typeText context (.nullable schema) =
      "(" ++ TypeScript.typeText context schema ++ " | null)" := by
  have texts : TypeScript.typeText context (.nullable schema) =
      "(" ++ String.intercalate " | " [TypeScript.typeText context schema, "null"] ++ ")" := rfl
  rw [texts, String.intercalate_cons_cons, String.intercalate_singleton, String.append_assoc,
    String.append_assoc, String.append_assoc, String.append_assoc]
  rfl

/-! ## The keywords of the object -/

variable {members : Json.Members}

/-- The object has no reference and no composition: none of these keywords says anything. -/
def IsPlain (members : Json.Members) : Prop :=
  ∀ keyword ∈ Keyword.composing, members.value keyword.name = .null

theorem spelled_of_implied_none (members : Json.Members) {keyword : Keyword}
    (current : implied members keyword.name = none) :
    (Document.Region.inside .schema).spelled members keyword = members.value keyword.name := by
  rw [Document.Region.spelled, current, Option.or_none, Json.Members.value, ite_self]

/-- What is gathered is plain when the object is. -/
theorem isPlain_iff {keywords : Keywords} (distinct : (members.map Prod.fst).Nodup)
    (read : readKeywords (normalize (.object members)) = .ok keywords) :
    keywords.IsPlain ↔ IsPlain members := by
  have current : ∀ keyword ∈ Keyword.composing, implied members keyword.name = none := by
    intro keyword composes
    cases keyword <;> first | rfl | exact absurd composes (by decide)
  rw [Keywords.isPlain_iff, IsPlain]
  refine forall₂_congr (fun keyword composes => ?_)
  rw [get_eq_none_iff distinct read, spelled_of_implied_none members (current keyword composes)]

/-- The types of the object: those that it states, or the one that a constant implies. -/
def spelledTypes (members : Json.Members) : List String :=
  typeNames ((Document.Region.inside .schema).spelled members .types)

/-- Stated types come before those of a constant. -/
theorem spelledTypes_stated {type : Json} (stated : members.find? "type" = some type) :
    spelledTypes members = typeNames type := by
  rw [spelledTypes, spelled_of_stated .types stated]

theorem getD_types_eq {keywords : Keywords} (distinct : (members.map Prod.fst).Nodup)
    (read : readKeywords (normalize (.object members)) = .ok keywords) :
    keywords.types.getD [] = spelledTypes members := by
  have here := (readKeywords_normalize_iff distinct keywords).mp read .types
  exact getD_of_read_types (here.symm ▸ congrArg _ (Document.Region.normalizeIn_data _).symm)

/-- Types without null, or a single one that a constant implies, leave nullability to the
flag. -/
theorem spelledTypes_plain
    (noNull : forall type : Json, members.find? "type" = some type -> "null" ∉ typeNames type) :
    (spelledTypes members).length = 1 ∨ "null" ∉ spelledTypes members := by
  cases stated : members.find? "type" with
  | some type =>
      rw [spelledTypes_stated stated]
      exact .inr (noNull type stated)
  | none =>
      rw [spelledTypes, spelled_of_missing .types stated, implied_types, impliedType]
      cases (members.find? "const").bind constantType? with
      | none => exact .inr List.not_mem_nil
      | some type => exact .inl rfl

/-! ## Objects with one more spelling -/

variable {before after : Json.Members} {keywords : Keywords}

/-- Without a flag, either spelling of it sets it. -/
theorem readKeywords_flagged (distinct : ((before ++ after).map Prod.fst).Nodup)
    (read : readKeywords (normalize (.object (before ++ after))) = .ok keywords)
    (unflagged : ∀ name ∈ ["x-nullable", "nullable"], name ∉ (before ++ after).map Prod.fst)
    {name : String} (given : name ∈ ["x-nullable", "nullable"]) :
    readKeywords (normalize (.object (before ++ (name, .boolean true) :: after))) =
      .ok (keywords.set .nullable (some true)) := by
  have flaggedDistinct : ((before ++ (name, Json.boolean true) :: after).map Prod.fst).Nodup :=
    Json.Members.nodup_amid_iff.mpr ⟨unflagged name given, distinct⟩
  have found := Json.Members.find?_amid flaggedDistinct
  have notConstant : "const" ≠ name := by
    rintro rfl
    exact absurd given (by decide)
  refine readKeywords_of_respelled distinct flaggedDistinct read .nullable ?_ ?_
  · intro other apart
    have notFlag : other.name ≠ name := by
      rintro rfl
      cases other <;> first | exact apart rfl | exact absurd given (by decide)
    apply Document.Region.spelled_congr
    · rw [found, if_neg notFlag]
    · apply implied_congr
      · intro nullable
        have same : other = .nullable := Keyword.name_injective nullable
        exact absurd same apart
      · intro _
        rw [found, if_neg notConstant]
  · have spelled : (Document.Region.inside .schema).spelled
        (before ++ (name, .boolean true) :: after) .nullable = .boolean true := by
      rcases List.mem_pair.mp given with rfl | rfl
      · have absent := (Json.Members.find?_eq_none_iff _ _).mpr
          (unflagged "nullable" (by decide))
        have missing := (found "nullable").trans ((if_neg (by decide)).trans absent)
        rw [spelled_of_missing .nullable missing, implied_nullable, impliedFlag, found]
        rfl
      · exact spelled_of_stated .nullable (found "nullable")
    rw [spelled]
    rfl

/-- Another spelling of the types is read in the place of the types. -/
theorem readKeywords_retyped {type other : Json}
    (distinct : ((before ++ ("type", type) :: after).map Prod.fst).Nodup)
    (read : readKeywords (normalize (.object (before ++ ("type", type) :: after))) =
      .ok keywords) {types : Option (List String)} (given : Keyword.types.read other = .ok types) :
    readKeywords (normalize (.object (before ++ ("type", other) :: after))) =
      .ok (keywords.set .types types) := by
  have otherDistinct : ((before ++ ("type", other) :: after).map Prod.fst).Nodup :=
    Json.Members.nodup_amid_iff.mpr (Json.Members.nodup_amid_iff.mp distinct)
  have found := Json.Members.find?_amid distinct
  have otherFound := Json.Members.find?_amid otherDistinct
  have same (name : String) (apart : name ≠ "type") :
      Json.Members.find? (before ++ ("type", other) :: after) name =
        Json.Members.find? (before ++ ("type", type) :: after) name := by
    rw [found, otherFound, if_neg apart, if_neg apart]
  refine readKeywords_of_respelled distinct otherDistinct read .types ?_ ?_
  · intro keyword apart
    apply Document.Region.spelled_congr
    · refine same _ (fun named => ?_)
      have typed : keyword = .types := Keyword.name_injective named
      exact apart typed
    · exact implied_congr (fun _ => same _ (by decide)) (fun _ => same _ (by decide))
  · have spelled : (Document.Region.inside .schema).spelled
        (before ++ ("type", other) :: after) .types = other := by
      refine spelled_of_stated .types ((otherFound _).trans ?_)
      exact if_pos rfl
    have data : normalizeIn (Position.ofMember Keyword.types.name) other = other :=
      Document.Region.normalizeIn_data other
    rw [spelled, data]
    exact given

/-! ## The three spellings -/

/-- A schema object with members, from which a schema is read, is made nullable. -/
structure NullabilityAgrees (members : Json.Members) (schema : Schema) : Prop where
  /-- By either flag, wherever it stands. -/
  flag : ∀ name ∈ ["x-nullable", "nullable"], forall before after : Json.Members,
    members = before ++ after ->
      Schema.read (normalize (.object (before ++ (name, .boolean true) :: after))) =
        .ok (.nullable schema)
  /-- By null at any place of the list of its types. -/
  listed : forall (before after : Json.Members) (type : Json) (first last : List String),
    members = before ++ ("type", type) :: after -> typeNames type = first ++ last ->
      first ++ last ≠ [] ->
        Schema.read (normalize (.object (before ++
          ("type", .array ((first ++ "null" :: last).map .string)) :: after))) =
            .ok (.nullable schema)
  /-- Its type is then the former type or null. -/
  text : forall context : TypeScript.TypeContext,
    TypeScript.typeText context (.nullable schema) =
      "(" ++ TypeScript.typeText context schema ++ " | null)"
  /-- Several types are alternatives, each read as it is alone. -/
  alternatives : IsPlain members -> forall (before after : Json.Members) (type : Json),
    members = before ++ ("type", type) :: after -> 2 ≤ (typeNames type).length ->
      Exists fun forms : List Schema => schema = .oneOf forms ∧
        List.Forall₂ (fun name form =>
          Schema.read (normalize (.object (before ++ ("type", .string name) :: after))) =
            .ok form) (typeNames type) forms

/-- Without a flag, nothing is gathered for it. -/
private theorem nullable_of_unflagged (distinct : (members.map Prod.fst).Nodup)
    (read : readKeywords (normalize (.object members)) = .ok keywords)
    (unflagged : ∀ name ∈ ["x-nullable", "nullable"], name ∉ members.map Prod.fst) :
    keywords.nullable = none := by
  have absent (name : String) (given : name ∈ ["x-nullable", "nullable"]) :
      members.find? name = none :=
    (Json.Members.find?_eq_none_iff members name).mpr (unflagged name given)
  have spelled : (Document.Region.inside .schema).spelled members .nullable = .null := by
    rw [spelled_of_missing .nullable (absent "nullable" (by decide)), implied_nullable,
      impliedFlag, absent "x-nullable" (by decide)]
    rfl
  exact (get_eq_none_iff distinct read .nullable).mpr spelled

/-- The spellings of nullability agree, and several types are alternatives. -/
theorem nullability_spellings_agree {schema : Schema} (distinct : (members.map Prod.fst).Nodup)
    (read : Schema.read (normalize (.object members)) = .ok schema)
    (unflagged : ∀ name ∈ ["x-nullable", "nullable"], name ∉ members.map Prod.fst)
    (noNull : forall type : Json, members.find? "type" = some type -> "null" ∉ typeNames type) :
    NullabilityAgrees members schema := by
  rcases (read_normalize_iff members schema).mp read with ⟨keywords, gathered, rfl⟩
  have types := getD_types_eq distinct gathered
  have flag := nullable_of_unflagged distinct gathered unflagged
  have form : keywords.toSchema = keywords.form keywords.effectiveTypes :=
    keywords.toSchema_of_plain flag (by rw [types]; exact spelledTypes_plain noNull)
  -- what is gathered for a type that the object states
  have stated {before after : Json.Members} {type : Json}
      (split : members = before ++ ("type", type) :: after) :
      "null" ∉ typeNames type ∧ keywords.types.getD [] = typeNames type ∧
        keywords.effectiveTypes = typeNames type := by
    have found : members.find? "type" = some type := by
      rw [Json.Members.find?_eq_some_iff distinct, split]
      exact List.mem_append_right _ List.mem_cons_self
    have absent := noNull type found
    have names : keywords.types.getD [] = typeNames type :=
      types.trans (spelledTypes_stated found)
    refine ⟨absent, names, ?_⟩
    rw [Keywords.effectiveTypes_of_not_mem (by rwa [names]), names]
  refine ⟨?_, ?_, fun context => typeText_nullable context _, ?_⟩
  · rintro name given before after rfl
    refine (read_normalize_iff _ _).mpr
      ⟨_, readKeywords_flagged distinct gathered unflagged given, ?_⟩
    rw [Keywords.toSchema_set_nullable, form]
  · rintro before after type first last split names given
    rcases stated split with ⟨absent, _, effective⟩
    subst split
    have spelling : Keyword.types.read (.array ((first ++ "null" :: last).map .string)) =
        .ok (some (first ++ "null" :: last)) :=
      congrArg (Except.map some) (readTypes_names (first ++ "null" :: last))
    refine (read_normalize_iff _ _).mpr ⟨_, readKeywords_retyped distinct gathered spelling, ?_⟩
    rw [names] at absent effective
    rw [Keywords.toSchema_set_types_null absent given, form, effective]
  · rintro plain before after type split several
    have compositions := (isPlain_iff distinct gathered).mpr plain
    rcases stated split with ⟨_, _, effective⟩
    subst split
    refine ⟨(typeNames type).map keywords.typedForm, ?_, ?_⟩
    · rw [form, effective, Keywords.form_of_several several compositions]
    · rw [List.forall₂_map_right_iff, List.forall₂_same]
      intro name listed
      have spelling : Keyword.types.read (.string name) = .ok (some [name]) := rfl
      have alone := readKeywords_retyped distinct gathered spelling
      refine (read_normalize_iff _ _).mpr ⟨_, alone, ?_⟩
      rw [Keywords.toSchema_set_types_single flag, Keywords.form_of_single name compositions]

/-- An enumeration of texts or integers, made nullable. -/
theorem nullability_agrees_stringOrInteger :
    NullabilityAgrees
      [("type", .array [.string "string", .string "integer"]), ("enum", .array [.string "a"])]
      (.oneOf [.enumeration [.string "a"], .enumeration [.string "a"]]) := by
  refine nullability_spellings_agree (by decide) rfl (by decide) ?_
  intro type found
  cases found
  decide

end Schema
end OpenApiTypes
