import OpenApiTypes.Proofs.Registry.Reordered
import OpenApiTypes.Proofs.TypeScript.References

namespace OpenApiTypes
namespace Schema

/-!
# Schemas with their properties in another order

The properties of an object schema may be declared in any order, at every depth.  The
members of alternatives and compositions may not: their order is that of the type.  Type
expressions order the members of an object by name, so schemas that differ in the order of
properties alone have one type expression.
-/

/-- A property with another schema. -/
inductive PropertyOf.Alike {Content : Type} (Same : Content -> Content -> Prop) :
    PropertyOf Content -> PropertyOf Content -> Prop
  | mk (name : String) (deprecated : Bool) {first second : Content} (schema : Same first second) :
      Alike Same ⟨name, deprecated, first⟩ ⟨name, deprecated, second⟩

/-- Two schemas that differ in the order of properties alone, at every depth.  Properties are
read from the members of an object, which all have different names; should a name stand
twice all the same, its properties keep their order. -/
inductive Reordered : Schema -> Schema -> Prop
  | nullable {first second : Schema} (inner : Reordered first second) :
      Reordered (.nullable first) (.nullable second)
  | reference (target : String) : Reordered (.reference target) (.reference target)
  | oneOf {first second : List Schema} (each : List.Forall₂ Reordered first second) :
      Reordered (.oneOf first) (.oneOf second)
  | allOf {first second : List Schema} (each : List.Forall₂ Reordered first second) :
      Reordered (.allOf first) (.allOf second)
  | primitive (type : Primitive) (format : Option String) :
      Reordered (.primitive type format) (.primitive type format)
  | enumeration (values : List Literal) : Reordered (.enumeration values) (.enumeration values)
  | map {first second : Option Schema} (values : Option.Rel Reordered first second) :
      Reordered (.map first) (.map second)
  | object {first middle second : List (PropertyOf Schema)}
      (each : List.Forall₂ (PropertyOf.Alike Reordered) first middle)
      (order : Text.Shuffled PropertyOf.name middle second) :
      Reordered (.object first) (.object second)
  | array {first second : Option Schema} (items : Option.Rel Reordered first second) :
      Reordered (.array first) (.array second)
  | unknown : Reordered .unknown .unknown

/-- Every schema is an arrangement of itself. -/
theorem Reordered.refl (schema : Schema) : Reordered schema schema := by
  induction schema with
  | nullable inner inductionHypothesis => exact .nullable inductionHypothesis
  | reference target => exact .reference target
  | oneOf alternatives inductionHypothesis =>
      exact .oneOf (List.forall₂_same.mpr inductionHypothesis)
  | allOf members inductionHypothesis => exact .allOf (List.forall₂_same.mpr inductionHypothesis)
  | primitive type format => exact .primitive type format
  | enumeration values => exact .enumeration values
  | map values inductionHypothesis =>
      cases values with
      | none => exact .map .none
      | some values => exact .map (.some (inductionHypothesis values rfl))
  | object properties inductionHypothesis =>
      refine .object (List.forall₂_same.mpr ?_) (fun _ => rfl)
      intro property member
      exact .mk property.name property.deprecated (inductionHypothesis property member)
  | array items inductionHypothesis =>
      cases items with
      | none => exact .array .none
      | some items => exact .array (.some (inductionHypothesis items rfl))
  | unknown => exact .unknown

/-- Properties of different names may be declared in any order. -/
theorem Reordered.object_of_perm {first second : List Property}
    (distinct : (first.map PropertyOf.name).Nodup) (perm : first.Perm second) :
    Reordered (.object first) (.object second) := by
  have each : List.Forall₂ (PropertyOf.Alike Reordered) first first := by
    refine List.forall₂_same.mpr ?_
    intro property _
    exact .mk property.name property.deprecated (Reordered.refl property.schema)
  exact .object each ((Text.shuffled_iff_perm distinct).mpr perm)

/-- Admitting null keeps schemas arrangements of each other. -/
theorem Reordered.toNullable {first second : Schema} (reordered : Reordered first second) :
    Reordered first.toNullable second.toNullable := by
  cases reordered with
  | nullable inner => exact .nullable inner
  | reference target => exact .nullable (.reference target)
  | oneOf each => exact .nullable (.oneOf each)
  | allOf each => exact .nullable (.allOf each)
  | primitive type format => exact .nullable (.primitive type format)
  | enumeration values => exact .nullable (.enumeration values)
  | map values => exact .nullable (.map values)
  | object each order => exact .nullable (.object each order)
  | array items => exact .nullable (.array items)
  | unknown => exact .nullable .unknown

/-- Whether a schema is that of raw octets does not depend on the order of properties. -/
theorem Reordered.isBinary_eq {first second : Schema} (reordered : Reordered first second) :
    first.isBinary = second.isBinary := by
  cases reordered <;> rfl

end Schema

namespace TypeScript

/-- The member for a property of an object schema. -/
def memberFor (context : TypeContext) (property : Schema.Property) : TypeExpr.Member :=
  ⟨property.name, property.deprecated, synthesize context property.schema⟩

/-- The type expression of a schema does not depend on the order of properties. -/
theorem synthesize_eq_of_reordered (context : TypeContext) {first second : Schema}
    (reordered : first.Reordered second) :
    synthesize context first = synthesize context second := by
  induction first generalizing second with
  | nullable inner inductionHypothesis =>
      cases reordered with
      | nullable later => rw [synthesize, synthesize, inductionHypothesis later]
  | reference target =>
      cases reordered
      rfl
  | oneOf alternatives inductionHypothesis =>
      cases reordered with
      | oneOf each =>
          rw [synthesize, synthesize, synthesizeEach_eq_map, synthesizeEach_eq_map,
            map_eq_of_forall₂ each]
          intro one member other same
          exact inductionHypothesis one member same
  | allOf members inductionHypothesis =>
      cases reordered with
      | allOf each =>
          rw [synthesize, synthesize, synthesizeEach_eq_map, synthesizeEach_eq_map,
            map_eq_of_forall₂ each]
          intro one member other same
          exact inductionHypothesis one member same
  | primitive type format =>
      cases reordered
      rfl
  | enumeration values =>
      cases reordered
      rfl
  | map values inductionHypothesis =>
      cases reordered with
      | map values =>
          cases values with
          | none => rfl
          | some same => rw [synthesize, synthesize, inductionHypothesis _ rfl same]
  | object properties inductionHypothesis =>
      cases reordered with
      | @object _ middle others each order =>
          rw [synthesize, synthesize, synthesizeProperties_eq_map, synthesizeProperties_eq_map]
          -- The members agree one by one, and sorting does not see their arrangement.
          have members : properties.map (memberFor context) = middle.map (memberFor context) := by
            refine map_eq_of_forall₂ each ?_
            intro one member other same
            cases same with
            | mk name deprecated schema =>
                rw [memberFor, memberFor, inductionHypothesis _ member schema]
          have arranged : Text.Shuffled MemberOf.name (middle.map (memberFor context))
              (others.map (memberFor context)) := order.map (fun _ => rfl)
          change TypeExpr.object (Text.sortOn MemberOf.name (properties.map (memberFor context))) =
            .object (Text.sortOn MemberOf.name (others.map (memberFor context)))
          rw [members, arranged.sortOn_eq]
  | array items inductionHypothesis =>
      cases reordered with
      | array items =>
          cases items with
          | none => rfl
          | some same => rw [synthesize, synthesize, inductionHypothesis _ rfl same]
  | unknown =>
      cases reordered
      rfl

/-- The text of the type of a schema does not depend on the order of properties. -/
theorem typeText_eq_of_reordered (context : TypeContext) {first second : Schema}
    (reordered : first.Reordered second) : typeText context first = typeText context second :=
  congrArg TypeExpr.text (synthesize_eq_of_reordered context reordered)

end TypeScript
end OpenApiTypes
