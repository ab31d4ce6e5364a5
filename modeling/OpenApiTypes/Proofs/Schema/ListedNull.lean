import OpenApiTypes.Proofs.Schema.Nullability
import OpenApiTypes.Proofs.TypeScript.Numerals
import OpenApiTypes.Proofs.TypeScript.References

namespace OpenApiTypes
namespace TypeScript

/-!
# What becomes of a listed null

The values of an enumeration become literal types.  Under the type string every value is
listed by its text, null too, so that null among texts is the text `null`.  Untyped values,
and those under other scalar types, keep their kind, and null is the null type.  Where a
reference or a composition decides the form, nothing is listed.

Nullability does not matter here: it adds the null type beside the others.
-/

/-- The literal type is one of the alternatives, possibly in a union of them. -/
inductive TypeExpr.Offers (literal : LiteralType) : TypeExpr -> Prop
  | here : Offers literal (.literal literal)
  | inside {members : List TypeExpr} {member : TypeExpr} (listed : member ∈ members)
      (offered : Offers literal member) : Offers literal (.union members)

namespace TypeExpr

variable {literal : LiteralType}

@[simp] theorem offers_literal_iff (value : LiteralType) :
    Offers literal (.literal value) ↔ value = literal := by
  constructor
  · rintro ⟨⟩
    rfl
  · rintro rfl
    exact .here

@[simp] theorem offers_union_iff (members : List TypeExpr) :
    Offers literal (.union members) ↔ ∃ member ∈ members, Offers literal member := by
  constructor
  · rintro (_ | ⟨listed, offered⟩)
    exact ⟨_, listed, offered⟩
  · rintro ⟨member, listed, offered⟩
    exact .inside listed offered

@[simp] theorem not_offers_predefined (name : String) : ¬ Offers literal (.predefined name) :=
  nofun

end TypeExpr

variable {literal : LiteralType}

/-- An enumeration offers the literal types of its values. -/
theorem offers_enumerationType_iff (values : List Schema.Literal) :
    (enumerationType values).Offers literal ↔
      ∃ value ∈ values, literalType value = .literal literal := by
  have one (value : Schema.Literal) :
      (literalType value).Offers literal ↔ literalType value = .literal literal := by
    cases value <;> simp [literalType]
  cases values with
  | nil => simp [enumerationType]
  | cons first rest => simp [enumerationType, one]

end TypeScript

namespace Schema

open TypeScript

variable {literal : LiteralType}

/-! ## What the keywords list -/

/-- Whether listed values become literals under the types, by their texts or as they are. -/
def TakesValues (types : List String) (asText : Bool) : Prop :=
  match asText with
  | true => "string" ∈ types
  | false => types = [] ∨ ∃ type ∈ types, type ∈ ["number", "boolean", "integer"]

namespace Keywords

/-- The literal types that listed values become under the types. -/
def Writes (keywords : Keywords) (types : List String) (literal : LiteralType) : Prop :=
  Exists fun asText : Bool => TakesValues types asText ∧
    ∃ value ∈ keywords.values.getD [], literalType (Literal.ofJson asText value) = .literal literal

private theorem offers_listed_iff (context : TypeContext) (keywords : Keywords) (asText : Bool)
    (scalar : Primitive) :
    (synthesize context
        (match keywords.values with
          | some values => .enumeration (values.map (Literal.ofJson asText))
          | none => .primitive scalar keywords.format)).Offers literal ↔
      ∃ value ∈ keywords.values.getD [],
        literalType (Literal.ofJson asText value) = .literal literal := by
  cases keywords.values with
  | none => cases scalar <;> simp [synthesize, primitiveType]
  | some values => simp [synthesize, offers_enumerationType_iff]

private theorem name_of_ofName? {type : String} {scalar : Primitive}
    (found : Primitive.ofName? type = some scalar) :
    scalar = .null ∨ type = "string" ∨ type ∈ ["number", "boolean", "integer"] := by
  unfold Primitive.ofName? at found
  split at found
  · exact .inl (Option.some.inj found).symm
  · exact .inr (.inr (by decide))
  · exact .inr (.inr (by decide))
  · exact .inr (.inr (by decide))
  · exact .inr (.inl rfl)
  · cases found

/-- Types other than those of scalars, and null, offer no literal. -/
private theorem not_offers_typedForm (context : TypeContext) (keywords : Keywords) {type : String}
    (text : type ≠ "string") (scalar : type ∉ ["number", "boolean", "integer"]) :
    ¬ (synthesize context (keywords.typedForm type)).Offers literal := by
  unfold typedForm
  cases found : Primitive.ofName? type with
  | some primitive =>
      have null : primitive = .null := by
        rcases name_of_ofName? found with null | named | named
        · exact null
        · exact absurd named text
        · exact absurd named scalar
      subst null
      exact TypeExpr.not_offers_predefined "null"
  | none =>
      dsimp only
      split
      · split
        · nofun
        · nofun
        · nofun
      · split
        · cases keywords.items <;> nofun
        · exact TypeExpr.not_offers_predefined _

/-- What a single type offers. -/
theorem offers_typedForm_iff (context : TypeContext) (keywords : Keywords) (type : String) :
    (synthesize context (keywords.typedForm type)).Offers literal ↔
      keywords.Writes [type] literal := by
  by_cases text : type = "string"
  · subst text
    refine (offers_listed_iff context keywords true .string).trans ?_
    simp [Writes, TakesValues]
  · by_cases scalar : type ∈ ["number", "boolean", "integer"]
    · have listed : (synthesize context (keywords.typedForm type)).Offers literal ↔
          ∃ value ∈ keywords.values.getD [],
            literalType (Literal.ofJson false value) = .literal literal := by
        rcases List.mem_cons.mp scalar with rfl | others
        · exact offers_listed_iff context keywords false .number
        · rcases List.mem_pair.mp others with rfl | rfl
          · exact offers_listed_iff context keywords false .boolean
          · exact offers_listed_iff context keywords false .integer
      rw [listed]
      constructor
      · intro given
        exact ⟨false, .inr ⟨type, List.mem_singleton_self type, scalar⟩, given⟩
      · rintro ⟨asText, takes, given⟩
        cases asText with
        | true => exact absurd (List.mem_singleton.mp takes).symm text
        | false => exact given
    · refine iff_of_false (not_offers_typedForm context keywords text scalar) ?_
      rintro ⟨asText, takes, _⟩
      cases asText with
      | true => exact text (List.mem_singleton.mp takes).symm
      | false =>
          rcases takes with none | ⟨other, single, listed⟩
          · cases none
          · rw [List.mem_singleton.mp single] at listed
            exact scalar listed

private theorem takesValues_of_mem {types : List String} {type : String} (listed : type ∈ types)
    {asText : Bool} (takes : TakesValues [type] asText) : TakesValues types asText := by
  cases asText with
  | true =>
      have named : "string" = type := List.mem_singleton.mp takes
      rw [← named] at listed
      exact listed
  | false =>
      rcases takes with none | ⟨other, single, scalar⟩
      · cases none
      · rw [List.mem_singleton.mp single] at scalar
        exact .inr ⟨type, listed, scalar⟩

private theorem takesValues_iff_of_ne_nil {types : List String} (given : types ≠ []) (asText : Bool) :
    TakesValues types asText ↔ ∃ type ∈ types, TakesValues [type] asText := by
  constructor
  · intro takes
    cases asText with
    | true => exact ⟨"string", takes, List.mem_singleton_self "string"⟩
    | false =>
        rcases takes with none | ⟨type, listed, scalar⟩
        · exact absurd none given
        · exact ⟨type, listed, .inr ⟨type, List.mem_singleton_self type, scalar⟩⟩
  · rintro ⟨type, listed, takes⟩
    exact takesValues_of_mem listed takes

/-- What a form without references and compositions offers. -/
theorem offers_form_iff (context : TypeContext) {keywords : Keywords} (plain : keywords.IsPlain)
    (types : List String) :
    (synthesize context (keywords.form types)).Offers literal ↔ keywords.Writes types literal := by
  match types with
  | [] =>
      have listed : (synthesize context (keywords.form [])).Offers literal ↔
          ∃ value ∈ keywords.values.getD [],
            literalType (Literal.ofJson false value) = .literal literal := by
        rcases plain with ⟨reference, oneOf, allOf, anyOf⟩
        cases stated : keywords.values with
        | none =>
            have unknown : keywords.form [] = .unknown := by
              rw [form, reference, oneOf, allOf, anyOf, stated]
            rw [unknown]
            simp [synthesize]
        | some values =>
            have enumeration : keywords.form [] =
                .enumeration (values.map (Literal.ofJson false)) := by
              rw [form, reference, oneOf, allOf, anyOf, stated]
            rw [enumeration]
            simp [synthesize, offers_enumerationType_iff]
      rw [listed]
      constructor
      · intro given
        exact ⟨false, .inl rfl, given⟩
      · rintro ⟨asText, takes, given⟩
        cases asText with
        | true => cases takes
        | false => exact given
  | [type] =>
      rw [form_of_single type plain]
      exact offers_typedForm_iff context keywords type
  | first :: second :: rest =>
      have several : 2 ≤ (first :: second :: rest).length := Nat.le_add_left 2 rest.length
      have union : synthesize context (.oneOf ((first :: second :: rest).map keywords.typedForm)) =
          .union (((first :: second :: rest).map keywords.typedForm).map (synthesize context)) := by
        rw [← synthesizeEach_eq_map]
        rfl
      rw [form_of_several several plain, union, TypeExpr.offers_union_iff]
      constructor
      · rintro ⟨member, listed, offered⟩
        rcases List.mem_map.mp listed with ⟨_, made, rfl⟩
        rcases List.mem_map.mp made with ⟨type, present, rfl⟩
        rcases (offers_typedForm_iff context keywords type).mp offered with ⟨asText, takes, value⟩
        exact ⟨asText, takesValues_of_mem present takes, value⟩
      · rintro ⟨asText, takes, value⟩
        rcases (takesValues_iff_of_ne_nil (List.cons_ne_nil _ _) asText).mp takes with
          ⟨type, present, single⟩
        exact ⟨_, List.mem_map_of_mem (List.mem_map_of_mem present),
          (offers_typedForm_iff context keywords type).mpr ⟨asText, single, value⟩⟩

private theorem mem_effectiveTypes_iff (keywords : Keywords) {type : String}
    (apart : type ≠ "null") :
    type ∈ keywords.effectiveTypes ↔ type ∈ keywords.types.getD [] := by
  have kept : type ∈ (keywords.types.getD []).filter (fun type => type != "null") ↔
      type ∈ keywords.types.getD [] := by
    simp [apart]
  cases left : (keywords.types.getD []).filter (fun type => type != "null") with
  | cons first rest =>
      rw [effectiveTypes_eq left (List.cons_ne_nil first rest), ← left, kept]
  | nil =>
      rw [left] at kept
      refine iff_of_false ?_ (fun present => List.not_mem_nil (kept.mpr present))
      rw [effectiveTypes, left]
      dsimp only
      split
      · exact List.not_mem_nil
      · rwa [List.mem_singleton]

private theorem effectiveTypes_eq_nil_iff (keywords : Keywords) :
    keywords.effectiveTypes = [] ↔ keywords.types.getD [] = [] := by
  cases left : (keywords.types.getD []).filter (fun type => type != "null") with
  | cons first rest =>
      rw [effectiveTypes_eq left (List.cons_ne_nil first rest)]
      refine iff_of_false (List.cons_ne_nil first rest) (fun none => ?_)
      rw [none] at left
      cases left
  | nil =>
      rw [effectiveTypes, left]
      cases keywords.types.getD [] with
      | nil => exact Iff.rfl
      | cons first rest => exact iff_of_false (List.cons_ne_nil _ _) (List.cons_ne_nil _ _)

/-- Null among the types makes no difference to what becomes of listed values. -/
private theorem takesValues_effectiveTypes (keywords : Keywords) (asText : Bool) :
    TakesValues keywords.effectiveTypes asText ↔ TakesValues (keywords.types.getD []) asText := by
  cases asText with
  | true => exact mem_effectiveTypes_iff keywords (by decide)
  | false =>
      refine or_congr (effectiveTypes_eq_nil_iff keywords) (exists_congr fun type => ?_)
      refine and_congr_left fun scalar => mem_effectiveTypes_iff keywords ?_
      rintro rfl
      exact absurd scalar (by decide)

/-- A schema without references and compositions offers what becomes of its listed values
under its types. -/
theorem offers_toSchema_iff (context : TypeContext) {keywords : Keywords}
    (plain : keywords.IsPlain) :
    (synthesize context keywords.toSchema).Offers literal ↔
      keywords.Writes (keywords.types.getD []) literal := by
  have form : (synthesize context keywords.toSchema).Offers literal ↔
      (synthesize context (keywords.form keywords.effectiveTypes)).Offers literal := by
    rw [toSchema]
    cases keywords.admitsNull with
    | false => rfl
    | true =>
        change TypeExpr.Offers literal (.union [_, .predefined "null"]) ↔ _
        simp
  rw [form, offers_form_iff context plain]
  simp only [Writes, takesValues_effectiveTypes]

end Keywords

/-! ## The literals of null -/

private theorem ne_null_of_head? {text : String} (mark : Char)
    (head : text.toList.head? = some mark) (apart : mark ≠ 'n') : text ≠ "null" := by
  rintro rfl
  cases head
  exact apart rfl

private theorem text_ne_null (number : Json.Number) : number.text ≠ "null" := by
  rcases isSignedNumeral_text number with ⟨digits, numeral, unsigned | signed⟩
  · rintro named
    rw [← unsigned, named] at numeral
    rcases numeral with ⟨part, read, _⟩
    cases read
  · refine ne_null_of_head? '-' ?_ (by decide)
    rw [signed, String.toList_append]
    rfl

private theorem compact_array_ne_null (items : List Json) : (Json.array items).compact ≠ "null" := by
  have shown : (Json.array items).compact = "[" ++ (Json.compactItems items ++ "]") := by
    rw [Json.compact, String.append_assoc]
  refine ne_null_of_head? '[' ?_ (by decide)
  rw [shown, String.toList_append]
  rfl

private theorem compact_object_ne_null (members : Json.Members) :
    (Json.object members).compact ≠ "null" := by
  have shown : (Json.object members).compact =
      "\x7b" ++ (Json.compactMembers members ++ "\x7d") := by
    rw [Json.compact, String.append_assoc]
  refine ne_null_of_head? '\x7b' ?_ (by decide)
  rw [shown, String.toList_append]
  rfl

/-- What is listed as the text `null`. -/
theorem literalType_eq_text_null_iff (asText : Bool) (value : Json) :
    literalType (Literal.ofJson asText value) = .literal (.string "null") ↔
      value = .string "null" ∨ (value = .null ∧ asText = true) := by
  cases value with
  | array items => simp [Literal.ofJson, literalType, compact_array_ne_null]
  | object members => simp [Literal.ofJson, literalType, compact_object_ne_null]
  | number value => cases asText <;> simp [Literal.ofJson, literalType, text_ne_null]
  | boolean value =>
      cases asText <;> cases value <;> simp [Literal.ofJson, literalType, Json.compact]
  | null => cases asText <;> simp [Literal.ofJson, literalType, Json.compact]
  | string text => cases asText <;> simp [Literal.ofJson, literalType]

/-- What is listed as null. -/
theorem literalType_eq_null_iff (asText : Bool) (value : Json) :
    literalType (Literal.ofJson asText value) = .literal .null ↔ value = .null ∧ asText = false := by
  cases value <;> cases asText <;> simp [Literal.ofJson, literalType]

/-! ## What an object lists -/

variable {members : Json.Members} {keywords : Keywords}

/-- The object lists a value: in its enumeration, or as its constant when it has none. -/
inductive Lists (members : Json.Members) (value : Json) : Prop
  | enumerated {values : List Json} (stated : members.find? "enum" = some (.array values))
      (listed : value ∈ values)
  | constant (missing : members.find? "enum" = none ∨ members.find? "enum" = some .null)
      (given : members.find? "const" = some value)

/-- The values that an enumeration is written with. -/
private def enumerated : Json -> List Json
  | .array values => values
  | _ => []

private theorem enumerated_of_read {value : Json} {values : Option (List Json)}
    (read : Keyword.read .values value = .ok values) : values.getD [] = enumerated value := by
  cases value with
  | array items =>
      have each : items.mapM (fun item => (pure (id item) : Except Reading.Error Json)) =
          pure (items.map id) := List.mapM_pure
      rw [List.map_id] at each
      have listed : Keyword.values.read (.array items) = .ok (some items) :=
        congrArg (Except.map some) each
      rw [listed] at read
      cases read
      rfl
  | null =>
      cases read
      rfl
  | _ => cases read

private theorem getD_values_eq (distinct : (members.map Prod.fst).Nodup)
    (read : readKeywords (normalize (.object members)) = .ok keywords) :
    keywords.values.getD [] =
      enumerated ((Document.Region.inside .schema).spelled members .values) := by
  have here := (readKeywords_normalize_iff distinct keywords).mp read .values
  exact (enumerated_of_read here).trans (congrArg enumerated (Document.Region.normalizeIn_data _))

private theorem lists_of_mem (distinct : (members.map Prod.fst).Nodup)
    (read : readKeywords (normalize (.object members)) = .ok keywords) {value : Json}
    (listed : value ∈ keywords.values.getD []) : Lists members value := by
  rw [getD_values_eq distinct read] at listed
  cases stated : members.find? "enum" with
  | some enumeration =>
      rw [spelled_of_stated .values stated] at listed
      cases enumeration with
      | array values => exact .enumerated stated listed
      | _ => cases listed
  | none =>
      rw [spelled_of_missing .values stated, implied_values, impliedValues] at listed
      cases given : members.find? "const" with
      | some constant =>
          rw [given] at listed
          have same : value = constant := List.mem_singleton.mp listed
          rw [← same] at given
          exact .constant (.inl stated) given
      | none =>
          rw [given] at listed
          cases listed

private theorem mem_of_lists (distinct : (members.map Prod.fst).Nodup)
    (read : readKeywords (normalize (.object members)) = .ok keywords)
    (notNull : members.find? "enum" ≠ some .null) {value : Json} (lists : Lists members value) :
    value ∈ keywords.values.getD [] := by
  rw [getD_values_eq distinct read]
  rcases lists with ⟨stated, listed⟩ | ⟨missing, given⟩
  · rw [spelled_of_stated .values stated]
    exact listed
  · rw [spelled_of_missing .values (missing.resolve_right notNull), implied_values, impliedValues,
      given]
    exact List.mem_singleton_self value

/-! ## Without the listed values -/

/-- The members other than those that list values. -/
def withoutValues (members : Json.Members) : Json.Members :=
  members.filter (fun member => member.1 != "enum" && member.1 != "const")

private theorem find?_withoutValues (name : String) :
    (withoutValues members).find? name =
      if name != "enum" && name != "const" then members.find? name else none :=
  Json.Members.find?_filter (fun name => name != "enum" && name != "const") members name

private theorem nodup_withoutValues (distinct : (members.map Prod.fst).Nodup) :
    ((withoutValues members).map Prod.fst).Nodup :=
  distinct.sublist (List.filter_sublist.map Prod.fst)

/-- Without the values and the types, which a constant may imply, the keywords are the same. -/
private theorem readKeywords_withoutValues (distinct : (members.map Prod.fst).Nodup)
    (read : readKeywords (normalize (.object members)) = .ok keywords) :
    readKeywords (normalize (.object (withoutValues members))) =
      .ok ((keywords.set .values none).set .types
        (if members.find? "type" = none then none else keywords.types)) := by
  have found (name : String) (kept : (name != "enum" && name != "const") = true) :
      (withoutValues members).find? name = members.find? name := by
    rw [find?_withoutValues, if_pos kept]
  have constant : (withoutValues members).find? "const" = none := by
    rw [find?_withoutValues, if_neg (by decide)]
  rw [readKeywords_normalize_iff (nodup_withoutValues distinct)]
  rw [readKeywords_normalize_iff distinct] at read
  intro keyword
  have null : keyword.read (normalizeIn (Position.ofMember keyword.name) .null) = .ok none := by
    have kept : normalizeIn (Position.ofMember keyword.name) .null = .null :=
      Document.Region.normalize_null (.inside _)
    rw [kept, Keyword.read_null]
  by_cases values : keyword = .values
  · subst values
    have missing : (withoutValues members).find? "enum" = none := by
      rw [find?_withoutValues, if_neg (by decide)]
    rw [spelled_of_missing .values missing, implied_values, impliedValues, constant]
    exact null
  by_cases types : keyword = .types
  · subst types
    have kept := found "type" (by decide)
    rw [Keywords.get_set]
    cases stated : members.find? "type" with
    | none =>
        rw [spelled_of_missing .types (kept.trans stated), implied_types, impliedType, constant]
        exact null
    | some type =>
        have here := read .types
        rw [spelled_of_stated .types stated] at here
        rw [spelled_of_stated .types (kept.trans stated)]
        exact here
  · have other : keyword.name ≠ "type" ∧ keyword.name ≠ "enum" :=
      ⟨fun named => types (Keyword.name_injective named),
        fun named => values (Keyword.name_injective named)⟩
    have kept : (keyword.name != "enum" && keyword.name != "const") = true := by
      cases keyword <;> first | rfl | exact absurd rfl values
    have spelled : (Document.Region.inside .schema).spelled (withoutValues members) keyword =
        (Document.Region.inside .schema).spelled members keyword := by
      apply Document.Region.spelled_congr
      · exact found keyword.name kept
      · exact implied_congr (fun _ => found "x-nullable" (by decide))
          (fun named => absurd named (not_or_intro other.1 other.2))
    rw [spelled, read, Keywords.get_set_of_ne _ types, Keywords.get_set_of_ne _ values]

/-- A reference or a composition decides the form whatever the values and the types are. -/
private theorem form_of_composed (keywords : Keywords) (composed : ¬ keywords.IsPlain)
    (values : Option (List Json)) (stated : Option (List String))
    (types others : List String) :
    ((keywords.set .values values).set .types stated).form types = keywords.form others := by
  rcases keywords with ⟨reference, nullable, deprecated, oneOf, allOf, anyOf⟩
  cases reference with
  | some target => rfl
  | none =>
      cases oneOf with
      | some alternatives => rfl
      | none =>
          cases allOf with
          | some inside => rfl
          | none =>
              cases anyOf with
              | some alternatives => rfl
              | none => exact absurd ⟨rfl, rfl, rfl, rfl⟩ composed

/-- Beside a reference or a composition the listed values make no difference. -/
private theorem toSchema_withoutValues (distinct : (members.map Prod.fst).Nodup)
    (read : readKeywords (normalize (.object members)) = .ok keywords)
    (composed : ¬ IsPlain members) :
    ((keywords.set .values none).set .types
      (if members.find? "type" = none then none else keywords.types)).toSchema =
        keywords.toSchema := by
  have form := form_of_composed keywords (mt (isPlain_iff distinct read).mp composed)
  have nullable : ((keywords.set .values none).set .types
      (if members.find? "type" = none then none else keywords.types)).admitsNull =
        keywords.admitsNull := by
    cases stated : members.find? "type" with
    | some type => rfl
    | none =>
        have plain : (keywords.types.getD []).length = 1 ∨ "null" ∉ keywords.types.getD [] := by
          rw [getD_types_eq distinct read]
          exact spelledTypes_plain (fun type found => by rw [stated] at found; cases found)
        rw [Keywords.admitsNull_of_plain plain]
        exact Keywords.admitsNull_of_plain (.inr List.not_mem_nil)
  rw [Keywords.toSchema, Keywords.toSchema, nullable, form _ _ _ keywords.effectiveTypes]

/-! ## Listed nulls -/

/-- The text `null` is among the literals: it is listed, or null is listed as a text. -/
def WritesText (members : Json.Members) : Prop :=
  (Lists members (.string "null") ∧ Exists fun asText : Bool =>
      TakesValues (spelledTypes members) asText) ∨
    (Lists members .null ∧ TakesValues (spelledTypes members) true)

/-- Null is among the literals: it is listed, but not as a text. -/
def WritesNull (members : Json.Members) : Prop :=
  Lists members .null ∧ TakesValues (spelledTypes members) false

/-- What becomes of null in the schema that is read from an object. -/
structure NullAsListed (members : Json.Members) (schema : Schema) : Prop where
  /-- The text `null` is an alternative only where it comes from a listed value. -/
  text : IsPlain members -> forall context : TypeContext,
    (synthesize context schema).Offers (.string "null") -> WritesText members
  /-- So is the literal null. -/
  null : IsPlain members -> forall context : TypeContext,
    (synthesize context schema).Offers .null -> WritesNull members
  /-- Each of them is there if it does. -/
  kept : IsPlain members -> members.find? "enum" ≠ some .null -> forall context : TypeContext,
    (WritesText members -> (synthesize context schema).Offers (.string "null")) ∧
      (WritesNull members -> (synthesize context schema).Offers .null)
  /-- A reference or a composition leaves no room for listed values. -/
  composed : ¬ IsPlain members ->
    Schema.read (normalize (.object (withoutValues members))) = .ok schema

/-- Null becomes a text where texts are listed, and nowhere else. -/
theorem null_as_listed {schema : Schema} (distinct : (members.map Prod.fst).Nodup)
    (read : Schema.read (normalize (.object members)) = .ok schema) :
    NullAsListed members schema := by
  rcases (read_normalize_iff members schema).mp read with ⟨keywords, gathered, rfl⟩
  have offers (plain : IsPlain members) (context : TypeContext) (literal : LiteralType) :
      (synthesize context keywords.toSchema).Offers literal ↔
        keywords.Writes (spelledTypes members) literal := by
    rw [← getD_types_eq distinct gathered]
    exact Keywords.offers_toSchema_iff context ((isPlain_iff distinct gathered).mpr plain)
  refine ⟨?_, ?_, ?_, ?_⟩
  · intro plain context offered
    rcases (offers plain context _).mp offered with ⟨asText, takes, value, listed, written⟩
    have lists := lists_of_mem distinct gathered listed
    rcases (literalType_eq_text_null_iff asText value).mp written with rfl | ⟨rfl, rfl⟩
    · exact .inl ⟨lists, asText, takes⟩
    · exact .inr ⟨lists, takes⟩
  · intro plain context offered
    rcases (offers plain context _).mp offered with ⟨asText, takes, value, listed, written⟩
    rcases (literalType_eq_null_iff asText value).mp written with ⟨rfl, rfl⟩
    exact ⟨lists_of_mem distinct gathered listed, takes⟩
  · intro plain notNull context
    have listed {value : Json} (lists : Lists members value) :=
      mem_of_lists distinct gathered notNull lists
    constructor
    · rintro (⟨lists, asText, takes⟩ | ⟨lists, takes⟩)
      · exact (offers plain context _).mpr ⟨asText, takes, _, listed lists,
          (literalType_eq_text_null_iff asText _).mpr (.inl rfl)⟩
      · exact (offers plain context _).mpr ⟨true, takes, _, listed lists,
          (literalType_eq_text_null_iff true _).mpr (.inr ⟨rfl, rfl⟩)⟩
    · rintro ⟨lists, takes⟩
      exact (offers plain context _).mpr ⟨false, takes, _, listed lists,
        (literalType_eq_null_iff false _).mpr ⟨rfl, rfl⟩⟩
  · intro composed
    exact (read_normalize_iff _ _).mpr ⟨_, readKeywords_withoutValues distinct gathered,
      toSchema_withoutValues distinct gathered composed⟩

/-- Null is listed once as a text and once as it is. -/
theorem null_as_listed_stringOrInteger :
    NullAsListed
      [("type", .array [.string "string", .string "integer"]), ("nullable", .boolean true),
        ("enum", .array [.string "a", .null])]
      (.nullable (.oneOf [.enumeration [.string "a", .string "null"],
        .enumeration [.string "a", .null]])) :=
  null_as_listed (by decide) rfl

/-- A nullable enumeration of texts that lists null offers the text `null`, which it does not
list. -/
theorem text_null_not_listed :
    Exists fun schema : Schema =>
      Schema.read (normalize (.object [("type", .string "string"), ("nullable", .boolean true),
          ("enum", .array [.string "a", .null])])) = .ok schema ∧
        (synthesize ⟨none, .unknown⟩ schema).Offers (.string "null") ∧
        ¬ Lists [("type", .string "string"), ("nullable", .boolean true),
          ("enum", .array [.string "a", .null])] (.string "null") := by
  refine ⟨.nullable (.enumeration [.string "a", .string "null"]), rfl, ?_, ?_⟩
  · exact .inside List.mem_cons_self (.inside (List.mem_cons_of_mem _ List.mem_cons_self) .here)
  · rintro (⟨stated, listed⟩ | ⟨missing, given⟩)
    · cases stated
      rcases List.mem_pair.mp listed with same | same
      · injection same with text
        exact absurd text (by decide)
      · cases same
    · cases given

end Schema
end OpenApiTypes
