import OpenApiTypes.Document.Pointer
import OpenApiTypes.Schema.Basic
import Mathlib.Data.List.Basic

namespace OpenApiTypes
namespace Schema

/-!
# Induction on schemas, and the references in them

Schemas nest through lists, properties and optional parts.  The induction principle here
hands out its hypotheses for members of those, so that a proof has one case for each form
of a schema.  The references of a schema are listed at every depth, in the order in which
they are declared.
-/

/-- Induction with one case for each form of a schema. -/
@[induction_eliminator]
theorem induct {motive : Schema -> Prop}
    (nullable : forall inner : Schema, motive inner -> motive (.nullable inner))
    (reference : forall target : String, motive (.reference target))
    (oneOf : forall alternatives : List Schema,
      (∀ schema ∈ alternatives, motive schema) -> motive (.oneOf alternatives))
    (allOf : forall members : List Schema,
      (∀ schema ∈ members, motive schema) -> motive (.allOf members))
    (primitive : forall (type : Primitive) (format : Option String),
      motive (.primitive type format))
    (enumeration : forall values : List Literal, motive (.enumeration values))
    (map : forall values : Option Schema,
      (∀ schema ∈ values, motive schema) -> motive (.map values))
    (object : forall properties : List Property,
      (∀ property ∈ properties, motive property.schema) -> motive (.object properties))
    (array : forall items : Option Schema,
      (∀ schema ∈ items, motive schema) -> motive (.array items))
    (unknown : motive .unknown) (schema : Schema) : motive schema := by
  refine @Schema.rec motive (fun schemas => ∀ one ∈ schemas, motive one)
    (fun optional => ∀ one ∈ optional, motive one)
    (fun properties => ∀ one ∈ properties, motive one.schema)
    (fun property => motive property.schema)
    nullable reference oneOf allOf primitive enumeration map object array unknown
    ?_ ?_ ?_ ?_ ?_ ?_ ?_ schema
  · simp
  · intro first rest firstHolds restHolds one member
    rcases List.mem_cons.mp member with rfl | later
    · exact firstHolds
    · exact restHolds one later
  · simp
  · intro only holds one member
    cases member
    exact holds
  · simp
  · intro first rest firstHolds restHolds one member
    rcases List.mem_cons.mp member with rfl | later
    · exact firstHolds
    · exact restHolds one later
  · intro _ _ _ holds
    exact holds

/-! ## References -/

mutual

/-- The targets of the references in a schema, at every depth. -/
def references (schema : Schema) : List String :=
  match schema with
  | .nullable inner => references inner
  | .reference target => [target]
  | .oneOf alternatives => referencesOfEach alternatives
  | .allOf members => referencesOfEach members
  | .primitive _ _ => []
  | .enumeration _ => []
  | .map none => []
  | .map (some values) => references values
  | .object properties => referencesOfProperties properties
  | .array none => []
  | .array (some items) => references items
  | .unknown => []
termination_by structural schema

/-- The targets of the references in several schemas. -/
def referencesOfEach (schemas : List Schema) : List String :=
  match schemas with
  | [] => []
  | first :: rest => references first ++ referencesOfEach rest
termination_by structural schemas

/-- The targets of the references in the schemas of properties. -/
def referencesOfProperties (properties : List (PropertyOf Schema)) : List String :=
  match properties with
  | [] => []
  | ⟨_, _, schema⟩ :: rest => references schema ++ referencesOfProperties rest
termination_by structural properties

end

@[simp] theorem referencesOfEach_eq_flatMap (schemas : List Schema) :
    referencesOfEach schemas = schemas.flatMap references := by
  induction schemas with
  | nil => rfl
  | cons first rest inductionHypothesis =>
      rw [referencesOfEach, inductionHypothesis, List.flatMap_cons]

@[simp] theorem referencesOfProperties_eq_flatMap (properties : List Property) :
    referencesOfProperties properties =
      properties.flatMap (fun property => references property.schema) := by
  induction properties with
  | nil => rfl
  | cons first rest inductionHypothesis =>
      rw [referencesOfProperties, inductionHypothesis, List.flatMap_cons]

/-! ## References that name nothing -/

mutual

/-- A schema in which every reference whose target is not declared has no recognized
form. -/
def withoutDangling (declared : String -> Bool) (schema : Schema) : Schema :=
  match schema with
  | .nullable inner => .nullable (withoutDangling declared inner)
  | .reference target =>
      if declared (Pointer.targetName target) then .reference target else .unknown
  | .oneOf alternatives => .oneOf (withoutDanglingEach declared alternatives)
  | .allOf members => .allOf (withoutDanglingEach declared members)
  | .primitive type format => .primitive type format
  | .enumeration values => .enumeration values
  | .map none => .map none
  | .map (some values) => .map (some (withoutDangling declared values))
  | .object properties => .object (withoutDanglingProperties declared properties)
  | .array none => .array none
  | .array (some items) => .array (some (withoutDangling declared items))
  | .unknown => .unknown
termination_by structural schema

/-- The same for several schemas. -/
def withoutDanglingEach (declared : String -> Bool) (schemas : List Schema) : List Schema :=
  match schemas with
  | [] => []
  | first :: rest => withoutDangling declared first :: withoutDanglingEach declared rest
termination_by structural schemas

/-- The same for the schemas of properties. -/
def withoutDanglingProperties (declared : String -> Bool)
    (properties : List (PropertyOf Schema)) : List (PropertyOf Schema) :=
  match properties with
  | [] => []
  | ⟨name, deprecated, schema⟩ :: rest =>
      ⟨name, deprecated, withoutDangling declared schema⟩ ::
        withoutDanglingProperties declared rest
termination_by structural properties

end

@[simp] theorem withoutDanglingEach_eq_map (declared : String -> Bool) (schemas : List Schema) :
    withoutDanglingEach declared schemas = schemas.map (withoutDangling declared) := by
  induction schemas with
  | nil => rfl
  | cons first rest inductionHypothesis =>
      rw [withoutDanglingEach, inductionHypothesis, List.map_cons]

@[simp] theorem withoutDanglingProperties_eq_map (declared : String -> Bool)
    (properties : List Property) :
    withoutDanglingProperties declared properties =
      properties.map (fun property =>
        ⟨property.name, property.deprecated, withoutDangling declared property.schema⟩) := by
  induction properties with
  | nil => rfl
  | cons first rest inductionHypothesis =>
      rw [withoutDanglingProperties, inductionHypothesis, List.map_cons]

/-- What is left of the references are those whose targets are declared. -/
theorem references_withoutDangling (declared : String -> Bool) (schema : Schema) :
    references (withoutDangling declared schema) =
      (references schema).filter (fun target => declared (Pointer.targetName target)) := by
  induction schema with
  | nullable inner inductionHypothesis =>
      rw [withoutDangling, references, references, inductionHypothesis]
  | reference target =>
      rw [withoutDangling, references]
      cases known : declared (Pointer.targetName target) <;> simp [known, references]
  | oneOf alternatives inductionHypothesis =>
      simp only [withoutDangling, references, referencesOfEach_eq_flatMap,
        withoutDanglingEach_eq_map, List.flatMap_map, List.filter_flatMap]
      exact List.flatMap_congr inductionHypothesis
  | allOf members inductionHypothesis =>
      simp only [withoutDangling, references, referencesOfEach_eq_flatMap,
        withoutDanglingEach_eq_map, List.flatMap_map, List.filter_flatMap]
      exact List.flatMap_congr inductionHypothesis
  | primitive type format => rfl
  | enumeration values => rfl
  | map values inductionHypothesis =>
      cases values with
      | none => rfl
      | some values => exact inductionHypothesis values rfl
  | object properties inductionHypothesis =>
      simp only [withoutDangling, references, referencesOfProperties_eq_flatMap,
        withoutDanglingProperties_eq_map, List.flatMap_map, List.filter_flatMap]
      exact List.flatMap_congr inductionHypothesis
  | array items inductionHypothesis =>
      cases items with
      | none => rfl
      | some items => exact inductionHypothesis items rfl
  | unknown => rfl

private theorem map_eq_self {Item : Type} {items : List Item} {change : Item -> Item}
    (same : ∀ item ∈ items, change item = item) : items.map change = items :=
  (List.map_congr_left same).trans (List.map_id' items)

/-- A schema whose references all have declared targets stays as it is. -/
theorem withoutDangling_eq_self {declared : String -> Bool} {schema : Schema}
    (known : ∀ target ∈ references schema, declared (Pointer.targetName target)) :
    withoutDangling declared schema = schema := by
  induction schema with
  | nullable inner inductionHypothesis => rw [withoutDangling, inductionHypothesis known]
  | reference target =>
      rw [withoutDangling, if_pos (known target (List.mem_singleton_self target))]
  | oneOf alternatives inductionHypothesis =>
      rw [references, referencesOfEach_eq_flatMap, List.forall_mem_flatMap] at known
      rw [withoutDangling, withoutDanglingEach_eq_map, map_eq_self]
      intro schema member
      exact inductionHypothesis schema member (known schema member)
  | allOf members inductionHypothesis =>
      rw [references, referencesOfEach_eq_flatMap, List.forall_mem_flatMap] at known
      rw [withoutDangling, withoutDanglingEach_eq_map, map_eq_self]
      intro schema member
      exact inductionHypothesis schema member (known schema member)
  | primitive type format => rfl
  | enumeration values => rfl
  | map values inductionHypothesis =>
      cases values with
      | none => rfl
      | some values => rw [withoutDangling, inductionHypothesis values rfl known]
  | object properties inductionHypothesis =>
      rw [references, referencesOfProperties_eq_flatMap, List.forall_mem_flatMap] at known
      rw [withoutDangling, withoutDanglingProperties_eq_map, map_eq_self]
      intro property member
      rw [inductionHypothesis property member (known property member)]
  | array items inductionHypothesis =>
      cases items with
      | none => rfl
      | some items => rw [withoutDangling, inductionHypothesis items rfl known]
  | unknown => rfl

end Schema
end OpenApiTypes
