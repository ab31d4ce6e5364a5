import OpenApiTypes.Proofs.Naming.PropertyKeys
import OpenApiTypes.Proofs.Schema.Sources
import OpenApiTypes.Proofs.Text.Order
import OpenApiTypes.Proofs.TypeScript.References
import OpenApiTypes.Proofs.Yaml.DistinctNames

namespace OpenApiTypes

/-!
# The names of the members of objects

The properties of a schema are named as the members of one value, so no name stands there
twice.  Types sort them, and write each under a key that says its name, so neither the order
nor the quoting lets two members of a type meet.
-/

theorem Json.Distinct.of_mem_children {value part : Json} (distinct : value.Distinct)
    (stored : part ∈ value.children) : part.Distinct := by
  cases distinct with
  | array inside => exact inside part stored
  | object names inside =>
      rcases List.mem_map.mp stored with ⟨member, listed, rfl⟩
      exact inside member listed
  | null | boolean | number | string => cases stored

namespace Schema

/-- No two properties that stand directly in a schema have the same name. -/
def HasDistinctNames : Schema -> Prop
  | .object properties => (properties.map PropertyOf.name).Nodup
  | _ => True

namespace Keywords

variable {keywords : Keywords}

/-- What the declared properties are named decides it for every type. -/
theorem hasDistinctNames_typedForm
    (declared : ∀ properties ∈ keywords.properties, (properties.map PropertyOf.name).Nodup)
    (type : String) : (keywords.typedForm type).HasDistinctNames := by
  unfold typedForm
  split
  next => trivial
  next => split <;> trivial
  next =>
    split
    next =>
      split
      next => trivial
      next => trivial
      next =>
        cases held : keywords.properties with
        | none => exact List.nodup_nil
        | some properties => exact declared properties held
    next => split <;> trivial

theorem hasDistinctNames_form
    (declared : ∀ properties ∈ keywords.properties, (properties.map PropertyOf.name).Nodup)
    (types : List String) : (keywords.form types).HasDistinctNames := by
  unfold form
  split
  next => trivial
  next => trivial
  next => trivial
  next => trivial
  next =>
    split
    next => split <;> trivial
    next type => exact hasDistinctNames_typedForm declared type
    next => trivial

end Keywords

/-- Nowhere in a schema that is read from a value without repeated names have two properties
of an object the same name. -/
theorem hasDistinctNames_of_read {value : Json} (distinct : value.Distinct) {schema : Schema}
    (read : Schema.read value = .ok schema) : schema.Everywhere HasDistinctNames := by
  refine everywhere_of_read (fun _ distinct _ => distinct.of_mem_children) ?_ distinct read
  intro value keywords distinct gathered
  have declared : ∀ properties ∈ keywords.properties, (properties.map PropertyOf.name).Nodup := by
    intro properties held
    rcases Keywords.readFrom_children gathered .properties properties held with
      ⟨part, stored, reads⟩
    rcases Keyword.names_of_read reads with ⟨members, rfl, names⟩
    rw [names]
    exact ((Json.distinct_object_iff members).mp (distinct.of_mem_children stored)).1
  have form := Keywords.hasDistinctNames_form declared keywords.effectiveTypes
  refine ⟨Keywords.hasDistinctNames_typedForm declared, form, ?_⟩
  unfold Keywords.toSchema
  dsimp only
  split
  next => trivial
  next => exact form

end Schema

namespace TypeScript

open Naming (continuesIdentifier propertyKey readKey? readQuoted?)

/-- The members of the type of an object are named as its properties, in another order. -/
theorem exists_members_of_object (context : TypeContext) (properties : List Schema.Property) :
    Exists fun members : List TypeExpr.Member =>
      synthesize context (.object properties) = .object members ∧
        (members.map MemberOf.name).Perm (properties.map Schema.PropertyOf.name) := by
  refine ⟨_, rfl, ?_⟩
  rw [synthesizeProperties_eq_map]
  have sorted := (Text.sortOn_perm MemberOf.name (properties.map fun property =>
    (⟨property.name, property.deprecated, synthesize context property.schema⟩ :
      TypeExpr.Member))).map MemberOf.name
  rwa [List.map_map] at sorted

/-- Everywhere in a schema that is read from a value without repeated names, properties have
distinct names, the members of the type have these names under distinct keys, and each key
says the name.  Any string that is listed is written as a literal that says it.  Keys and
literals are read back from their first character, and reading stops behind their last one. -/
theorem members_keep_names {value : Json} (distinct : value.Distinct) {schema : Schema}
    (read : Schema.read value = .ok schema) (context : TypeContext) :
    (forall properties : List Schema.Property, schema.Contains (.object properties) ->
      (properties.map Schema.PropertyOf.name).Nodup ∧
        Exists fun members : List TypeExpr.Member =>
          synthesize context (.object properties) = .object members ∧
            (members.map MemberOf.name).Perm (properties.map Schema.PropertyOf.name) ∧
            (members.map fun member => propertyKey member.name).Nodup ∧
            ∀ member ∈ members, forall rest : List Char,
              (∀ character ∈ rest.head?, continuesIdentifier character = false) ->
                readKey? ((propertyKey member.name).toList ++ rest) =
                  some (member.name.toList, rest)) ∧
      forall (text : String) (rest : List Char),
        readQuoted? ((literalType (.string text)).text.toList ++ rest) =
          some (text.toList, rest) := by
  constructor
  · intro properties inside
    have names : (properties.map Schema.PropertyOf.name).Nodup :=
      Schema.hasDistinctNames_of_read distinct read _ inside
    rcases exists_members_of_object context properties with ⟨members, type, renamed⟩
    refine ⟨names, members, type, renamed, ?_, ?_⟩
    · have keys := (renamed.nodup_iff.mpr names).map Naming.propertyKey_injective
      rwa [List.map_map] at keys
    · intro member _ rest ends
      exact Naming.readKey?_propertyKey member.name ends
  · intro text rest
    exact Naming.readQuoted?_singleQuoted text rest

/-- An object whose names need quotes and backslashes, beside an identifier. -/
def quotedNames : Json :=
  .object [("type", .string "object"), ("properties", .object [
    ("it's", .object [("enum", .array [.string "a\\", .string "'"])]),
    ("its\\", .object [("type", .string "string")]),
    ("its", .object [("type", .string "string")])])]

/-- What is read from it. -/
def quotedNamesSchema : Schema :=
  .object [⟨"it's", false, .enumeration [.string "a\\", .string "'"]⟩,
    ⟨"its\\", false, .primitive .string none⟩, ⟨"its", false, .primitive .string none⟩]

/-- The same object as a text. -/
def quotedNamesText : String :=
  "type: object\nproperties:\n  it's:\n    enum: ['a\\', '''']\n  its\\:\n    type: string\n" ++
    "  its:\n    type: string\n"

/-- What is read from a text has no name twice. -/
theorem members_keep_names_quotedNames :
    quotedNames.Distinct ∧ Schema.read quotedNames = .ok quotedNamesSchema ∧
      (Exists fun members : List TypeExpr.Member =>
        synthesize ⟨none, .unknown⟩ quotedNamesSchema = .object members ∧
          (members.map fun member => propertyKey member.name).Nodup) ∧
      readQuoted? "'a\\\\' | '\\''".toList = some ("a\\".toList, " | '\\''".toList) ∧
      Exists fun value : Json => Exists fun schema : Schema =>
        Yaml.read? quotedNamesText = some value ∧ Schema.read value = .ok schema ∧
          forall properties : List Schema.Property, schema.Contains (.object properties) ->
            (properties.map Schema.PropertyOf.name).Nodup := by
  have distinct : quotedNames.Distinct := by simp [quotedNames]
  have read : Schema.read quotedNames = .ok quotedNamesSchema := rfl
  rcases members_keep_names distinct read ⟨none, .unknown⟩ with ⟨objects, literals⟩
  rcases objects _ .refl with ⟨_, members, type, _, keys, _⟩
  have readable : ((Yaml.read? quotedNamesText).any fun value =>
      (Schema.read value).toOption.isSome) = true := by
    decide +kernel
  rcases (Option.any_eq_true ..).mp readable with ⟨value, valueRead, succeeds⟩
  cases schemaRead : Schema.read value with
  | error problem =>
      rw [schemaRead] at succeeds
      cases succeeds
  | ok schema =>
      rcases members_keep_names (Yaml.distinct_of_read? valueRead) schemaRead ⟨none, .unknown⟩ with
        ⟨objectsRead, _⟩
      exact ⟨distinct, read, ⟨members, type, keys⟩, literals "a\\" " | '\\''".toList, value, schema,
        valueRead, schemaRead, fun properties inside => (objectsRead properties inside).1⟩

end TypeScript
end OpenApiTypes
