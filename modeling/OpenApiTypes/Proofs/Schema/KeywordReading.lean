import OpenApiTypes.Proofs.Json.Members
import OpenApiTypes.Schema.Keywords

namespace OpenApiTypes

/-- The value of a member; null when there is none. -/
def Json.Members.value (members : Json.Members) (name : String) : Json :=
  (members.find? name).getD .null

namespace Schema

open Reading

/-!
# What each keyword of a schema object says

The keywords of a schema object are gathered in document order, and which error is met
first depends on that order.  What is gathered does not: every keyword has a place of its
own, so an object with distinct names is read exactly when the value of each keyword can be
read by itself, and then each place holds what was read there.

A keyword that is bound to null says what a missing one says.  For a schema that is read as
it stands, null and absence are therefore the same.
-/

/-- The spelling of a keyword. -/
def Keyword.name : Keyword -> String
  | .reference => "$ref"
  | .nullable => "nullable"
  | .deprecated => "deprecated"
  | .oneOf => "oneOf"
  | .allOf => "allOf"
  | .anyOf => "anyOf"
  | .types => "type"
  | .values => "enum"
  | .format => "format"
  | .properties => "properties"
  | .additionalProperties => "additionalProperties"
  | .items => "items"

@[simp] theorem Keyword.ofName?_name (keyword : Keyword) :
    Keyword.ofName? keyword.name = some keyword := by
  cases keyword <;> decide

theorem Keyword.ofName?_eq_some_iff (name : String) (keyword : Keyword) :
    Keyword.ofName? name = some keyword ↔ keyword.name = name := by
  constructor
  · intro found
    rw [Keyword.ofName?, List.lookup_eq_some_iff] at found
    rcases found with ⟨before, after, spellings, _⟩
    have member : (name, keyword) ∈ Keyword.spellings := by simp [spellings]
    have each : ∀ entry ∈ Keyword.spellings, entry.2.name = entry.1 := by decide
    exact each _ member
  · rintro rfl
    exact Keyword.ofName?_name keyword

theorem Keyword.name_injective {first second : Keyword} (same : first.name = second.name) :
    first = second := by
  have found := Keyword.ofName?_name first
  rw [same, Keyword.ofName?_name] at found
  exact (Option.some.inj found).symm

/-! ## The places of the keywords -/

/-- What a keyword holds. -/
abbrev Keyword.Content : Keyword -> Type
  | .reference => String
  | .nullable => Bool
  | .deprecated => Bool
  | .oneOf => List Schema
  | .allOf => List Schema
  | .anyOf => List Schema
  | .types => List String
  | .values => List Json
  | .format => String
  | .properties => List Property
  | .additionalProperties => Additional
  | .items => Schema

namespace Keywords

/-- What is held in the place of a keyword. -/
def get (keywords : Keywords) : (keyword : Keyword) -> Option keyword.Content
  | .reference => keywords.reference
  | .nullable => keywords.nullable
  | .deprecated => keywords.deprecated
  | .oneOf => keywords.oneOf
  | .allOf => keywords.allOf
  | .anyOf => keywords.anyOf
  | .types => keywords.types
  | .values => keywords.values
  | .format => keywords.format
  | .properties => keywords.properties
  | .additionalProperties => keywords.additional
  | .items => keywords.items

/-- Put something in the place of a keyword. -/
def set (keywords : Keywords) (keyword : Keyword) (content : Option keyword.Content) : Keywords :=
  match keyword, content with
  | .reference, content => { keywords with reference := content }
  | .nullable, content => { keywords with nullable := content }
  | .deprecated, content => { keywords with deprecated := content }
  | .oneOf, content => { keywords with oneOf := content }
  | .allOf, content => { keywords with allOf := content }
  | .anyOf, content => { keywords with anyOf := content }
  | .types, content => { keywords with types := content }
  | .values, content => { keywords with values := content }
  | .format, content => { keywords with format := content }
  | .properties, content => { keywords with properties := content }
  | .additionalProperties, content => { keywords with additional := content }
  | .items, content => { keywords with items := content }

@[simp] theorem get_set (keywords : Keywords) (keyword : Keyword)
    (content : Option keyword.Content) : (keywords.set keyword content).get keyword = content := by
  cases keyword <;> rfl

@[simp] theorem set_set (keywords : Keywords) (keyword : Keyword)
    (first second : Option keyword.Content) :
    (keywords.set keyword first).set keyword second = keywords.set keyword second := by
  cases keyword <;> rfl

theorem get_set_of_ne (keywords : Keywords) {keyword other : Keyword} (apart : other ≠ keyword)
    (content : Option keyword.Content) :
    (keywords.set keyword content).get other = keywords.get other := by
  cases keyword <;> cases other <;> first | rfl | exact absurd rfl apart

/-- Keywords are what their places hold. -/
theorem eq_of_get {first second : Keywords}
    (same : forall keyword : Keyword, first.get keyword = second.get keyword) :
    first = second := by
  have reference := same .reference
  have nullable := same .nullable
  have deprecated := same .deprecated
  have oneOf := same .oneOf
  have allOf := same .allOf
  have anyOf := same .anyOf
  have types := same .types
  have values := same .values
  have format := same .format
  have properties := same .properties
  have additional := same .additionalProperties
  have items := same .items
  cases first
  cases second
  simp_all [get]

end Keywords

/-! ## Reading the value of a keyword -/

/-- Read the types: one name, or a list of names. -/
def readTypes : Reader (List String) :=
  either "RawType" (fun type => (string type).map (fun name => [name])) (list string)

/-- Read what `additionalProperties` says. -/
def readAdditional : Reader Additional
  | .boolean flag => .ok (.allowed flag)
  | value =>
      match readKeywords value with
      | .ok inner => .ok (.schema inner.toSchema)
      | .error _ => .error (.noVariant "RawAdditionalProperties")

/-- Read the value of a keyword by itself. -/
def Keyword.read : (keyword : Keyword) -> Reader (Option keyword.Content)
  | .reference => optional string
  | .nullable => optional boolean
  | .deprecated => optional boolean
  | .oneOf => optional readSchemaList
  | .allOf => optional readSchemaList
  | .anyOf => optional readSchemaList
  | .types => optional readTypes
  | .values => optional (list anything)
  | .format => optional string
  | .properties => optional readPropertyMap
  | .additionalProperties => optional readAdditional
  | .items => optional Schema.read

/-- Null says nothing. -/
@[simp] theorem Keyword.read_null (keyword : Keyword) : keyword.read .null = .ok none := by
  cases keyword <;> rfl

/-- Values other than null are read as what they should be. -/
private theorem optional_of_ne_null {Result : Type} (reader : Reader Result) {value : Json}
    (given : value ≠ .null) : optional reader value = (reader value).map some := by
  cases value with
  | null => exact absurd rfl given
  | _ => rfl

/-- Whatever else a keyword is bound to says something, if it can be read. -/
theorem Keyword.isSome_of_read {keyword : Keyword} {value : Json} (given : value ≠ .null)
    {content : Option keyword.Content} (read : keyword.read value = .ok content) :
    content.isSome = true := by
  have some_of_optional {Result : Type} {reader : Reader Result} {result : Option Result}
      (read : optional reader value = .ok result) : result.isSome = true := by
    rw [optional_of_ne_null reader given] at read
    cases found : reader value with
    | error problem =>
        rw [found] at read
        cases read
    | ok inner =>
        rw [found] at read
        cases read
        rfl
  cases keyword <;> exact some_of_optional read

/-- A keyword is read by itself and then put in its place. -/
theorem Keywords.put_eq (keywords : Keywords) (keyword : Keyword) (value : Json) :
    keywords.put keyword value (fun _ => readKeywords value) (fun _ => readSchemaList value)
        (fun _ => readPropertyMap value) =
      (keyword.read value).map (keywords.set keyword) := by
  by_cases absent : value = .null
  · subst absent
    cases keyword <;> rfl
  · have gather {First Second : Type} (reading : Except Error First) (change : First -> Second) :
        (reading >>= fun first => pure (change first)) = reading.map change := by
      cases reading <;> rfl
    cases keyword with
    | reference => exact gather _ _
    | nullable => exact gather _ _
    | deprecated => exact gather _ _
    | types => exact gather _ _
    | values => exact gather _ _
    | format => exact gather _ _
    | oneOf | allOf | anyOf =>
        rw [Keyword.read, optional_of_ne_null _ absent, put]
        · cases readSchemaList value <;> rfl
        · exact absent
    | properties =>
        rw [Keyword.read, optional_of_ne_null _ absent, put]
        · cases readPropertyMap value <;> rfl
        · exact absent
    | items =>
        rw [Keyword.read, optional_of_ne_null _ absent, Schema.read, put]
        · cases readKeywords value <;> rfl
        · exact absent
    | additionalProperties =>
        cases value with
        | null => exact absurd rfl absent
        | boolean flag => rfl
        | _ =>
            rw [Keyword.read, optional_of_ne_null _ absent, readAdditional, put]
            · cases readKeywords _ <;> rfl
            all_goals nofun

/-! ## Schemas as records -/

/-- A keyword as a field. -/
def keywordField (entry : String × Keyword) : Reading.Field Keywords where
  name := entry.1
  defaulted := false
  read value keywords := (entry.2.read value).map (keywords.set entry.2)

/-- A schema is a record with a field for each keyword. -/
def schemaShape : Shape Keywords where
  name := recordName
  fields := Keyword.spellings.map keywordField

private theorem find?_keywordField (entries : List (String × Keyword)) (name : String) :
    (entries.map keywordField).find? (fun field => field.name == name) =
      (entries.lookup name).map (fun keyword => keywordField (name, keyword)) := by
  induction entries with
  | nil => rfl
  | cons entry rest inductionHypothesis =>
      rcases entry with ⟨spelling, keyword⟩
      rw [List.map_cons, List.find?_cons, List.lookup_cons]
      by_cases same : spelling = name
      · subst same
        simp [keywordField]
      · have different : (name == spelling) = false := beq_eq_false_iff_ne.mpr (Ne.symm same)
        have otherWay : ((keywordField (spelling, keyword)).name == name) = false :=
          beq_eq_false_iff_ne.mpr same
        rw [different, otherWay]
        exact inductionHypothesis

private theorem readMembers_eq (members : Json.Members) (keywords : Keywords) :
    readMembers members keywords = schemaShape.readMembers members keywords := by
  induction members generalizing keywords with
  | nil => rfl
  | cons member rest inductionHypothesis =>
      rcases member with ⟨name, value⟩
      have found : schemaShape.fields.find? (fun field => field.name == name) =
          (Keyword.ofName? name).map (fun keyword => keywordField (name, keyword)) :=
        find?_keywordField Keyword.spellings name
      rw [readMembers, Shape.readMembers, found]
      cases Keyword.ofName? name with
      | none => exact inductionHypothesis keywords
      | some keyword =>
          simp only [Keywords.put_eq, Option.map_some]
          cases read : keyword.read value with
          | error problem => simp only [keywordField, read]; rfl
          | ok content =>
              simp only [keywordField, read]
              exact inductionHypothesis (keywords.set keyword content)

private theorem readElements_eq (entries : List (String × Keyword)) (items : List Json)
    (length index : Nat) (keywords : Keywords) :
    readElements length index (entries.map Prod.snd) items keywords =
      schemaShape.readElements length index (entries.map keywordField) items keywords := by
  induction items generalizing entries index keywords with
  | nil => cases entries <;> rfl
  | cons value rest inductionHypothesis =>
      cases entries with
      | nil => rfl
      | cons entry later =>
          rcases entry with ⟨spelling, keyword⟩
          rw [List.map_cons, List.map_cons, readElements, Shape.readElements, Keywords.put_eq]
          cases read : keyword.read value with
          | error problem => simp only [keywordField, read]; rfl
          | ok content =>
              simp only [keywordField, read]
              exact inductionHypothesis later (index + 1) (keywords.set keyword content)

/-- Keywords are gathered by reading the record. -/
theorem readKeywords_eq_reader : readKeywords = schemaShape.reader {} := by
  funext value
  cases value with
  | object members => exact readMembers_eq members {}
  | array items => exact readElements_eq Keyword.spellings items items.length 0 {}
  | _ => rfl

/-- A schema is read from the keywords that are gathered. -/
theorem read_eq_ok_iff (value : Json) (schema : Schema) :
    Schema.read value = .ok schema ↔
      Exists fun keywords : Keywords =>
        readKeywords value = .ok keywords ∧ keywords.toSchema = schema := by
  rw [Schema.read]
  cases readKeywords value with
  | error problem => simp [Except.map]
  | ok keywords => simp [Except.map]

/-! ## Objects -/

variable {members : Json.Members}

/-- Members with distinct names are read exactly when each keyword among them is, and each
place then holds what was read there, or what it held before. -/
theorem readMembers_eq_ok_iff (distinct : (members.map Prod.fst).Nodup)
    (start result : Keywords) :
    readMembers members start = .ok result ↔
      forall keyword : Keyword,
        ((members.find? keyword.name).elim (.ok (start.get keyword)) keyword.read) =
          .ok (result.get keyword) := by
  induction members generalizing start with
  | nil =>
      rw [readMembers, Except.ok.injEq]
      constructor
      · rintro rfl keyword
        rfl
      · intro same
        exact Keywords.eq_of_get (fun keyword => Except.ok.inj (same keyword))
  | cons member rest inductionHypothesis =>
      rcases member with ⟨name, value⟩
      rw [List.map_cons, List.nodup_cons] at distinct
      have look (keyword : Keyword) : Json.Members.find? ((name, value) :: rest) keyword.name =
          if keyword.name = name then some value else Json.Members.find? rest keyword.name := by
        rw [Json.Members.find?, List.lookup_cons]
        by_cases same : keyword.name = name
        · rw [if_pos same, beq_iff_eq.mpr same]
        · rw [if_neg same, beq_eq_false_iff_ne.mpr same]
          rfl
      rw [readMembers]
      cases known : Keyword.ofName? name with
      | none =>
          have other (keyword : Keyword) : keyword.name ≠ name := by
            rintro rfl
            rw [Keyword.ofName?_name] at known
            cases known
          simp only [look, if_neg (other _)]
          exact inductionHypothesis distinct.2 start
      | some keyword =>
          have named := (Keyword.ofName?_eq_some_iff name keyword).mp known
          have later : Json.Members.find? rest keyword.name = none := by
            rw [named, Json.Members.find?_eq_none_iff]
            exact distinct.1
          simp only [Keywords.put_eq]
          cases read : keyword.read value with
          | error problem =>
              constructor
              · intro failed
                cases failed
              · intro each
                have here := each keyword
                rw [look, if_pos named, Option.elim_some, read] at here
                cases here
          | ok content =>
              change readMembers rest (start.set keyword content) = .ok result ↔ _
              rw [inductionHypothesis distinct.2]
              refine forall_congr' fun other => ?_
              by_cases same : other = keyword
              · subst same
                rw [later, look, if_pos named, Option.elim_none, Option.elim_some,
                  Keywords.get_set, read]
              · have apart : other.name ≠ name := by
                  rw [← named]
                  exact fun equal => same (Keyword.name_injective equal)
                rw [look, if_neg apart, Keywords.get_set_of_ne _ same]

/-- An object with distinct names is read exactly when the value of each keyword is, where
the value of a missing one is null. -/
theorem readKeywords_object_iff (distinct : (members.map Prod.fst).Nodup) (result : Keywords) :
    readKeywords (.object members) = .ok result ↔
      forall keyword : Keyword,
        keyword.read (members.value keyword.name) = .ok (result.get keyword) := by
  rw [readKeywords, readMembers_eq_ok_iff distinct]
  refine forall_congr' fun keyword => ?_
  cases found : members.find? keyword.name with
  | some value => rw [Json.Members.value, found, Option.elim_some, Option.getD_some]
  | none =>
      have nothing : Keywords.get {} keyword = none := by cases keyword <;> rfl
      rw [Json.Members.value, found, Option.elim_none, Option.getD_none, Keyword.read_null, nothing]

/-! ## Types -/

/-- The names that types are written with: one name, or those of a list. -/
def typeNames : Json -> List String
  | .string name => [name]
  | .array items => items.filterMap (fun item => (string item).toOption)
  | _ => []

private theorem names_of_mapM_string {items : List Json} {names : List String}
    (read : items.mapM string = .ok names) :
    items.filterMap (fun item => (string item).toOption) = names := by
  induction items generalizing names with
  | nil =>
      cases read
      rfl
  | cons item rest inductionHypothesis =>
      rw [List.mapM_cons] at read
      cases head : string item with
      | error problem =>
          rw [head] at read
          cases read
      | ok name =>
          cases others : rest.mapM string with
          | error problem =>
              rw [head, others] at read
              cases read
          | ok later =>
              rw [head, others] at read
              cases read
              rw [List.filterMap_cons, head, inductionHypothesis others]
              rfl

/-- What is read as types are the names that they are written with. -/
theorem typeNames_of_readTypes {value : Json} {names : List String}
    (read : readTypes value = .ok names) : typeNames value = names := by
  cases value with
  | string name =>
      cases read
      rfl
  | array items =>
      have listed : items.mapM string = .ok names := by
        cases each : items.mapM string with
        | error problem =>
            have refused : readTypes (.array items) = .error (.noVariant "RawType") := by
              simp only [readTypes, either, string, wrongType, list, each, Except.map]
            rw [refused] at read
            cases read
        | ok found =>
            have accepted : readTypes (.array items) = .ok found := by
              simp only [readTypes, either, string, wrongType, list, each, Except.map]
            rw [accepted] at read
            exact read
      exact names_of_mapM_string listed
  | null => cases read
  | boolean => cases read
  | number => cases read
  | object => cases read

/-- The types that are gathered are the names that they are written with. -/
theorem getD_of_read_types {value : Json} {types : Option (List String)}
    (read : Keyword.read .types value = .ok types) : types.getD [] = typeNames value := by
  by_cases absent : value = .null
  · subst absent
    cases read
    rfl
  · rw [Keyword.read, optional_of_ne_null _ absent] at read
    cases names : readTypes value with
    | error problem =>
        rw [names] at read
        cases read
    | ok found =>
        rw [names] at read
        cases read
        exact (typeNames_of_readTypes names).symm

/-- A list of names is read as it is. -/
theorem readTypes_names (names : List String) :
    readTypes (.array (names.map .string)) = .ok names := by
  have listed : (names.map Json.string).mapM string = .ok names := by
    induction names with
    | nil => rfl
    | cons name rest inductionHypothesis =>
        rw [List.map_cons, List.mapM_cons, inductionHypothesis]
        rfl
  simp only [readTypes, either, string, wrongType, list, listed, Except.map]

end Schema
end OpenApiTypes
