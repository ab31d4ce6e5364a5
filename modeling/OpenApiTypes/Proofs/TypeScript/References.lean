import OpenApiTypes.Proofs.Schema.References
import OpenApiTypes.TypeScript.Synthesis
import Mathlib.Data.List.Perm.Basic

namespace OpenApiTypes
namespace TypeScript

/-!
# The names in the type of a schema

A type expression mentions declared types by name, each with the alias of the module that
declares it or without one.  The type of a schema mentions a name for each reference in
the schema and no other name.  Properties are ordered by name on the way, so the mentions
are a permutation of the references.
-/

namespace TypeExpr

mutual

/-- The declared types that a type expression mentions, each with its qualifier. -/
def mentioned (expression : TypeExpr) : List (Option String × String) :=
  match expression with
  | .predefined _ => []
  | .declared qualifier name => [(qualifier, name)]
  | .literal _ => []
  | .union members => mentionedInEach members
  | .intersection members => mentionedInEach members
  | .record values => mentioned values
  | .object members => mentionedInMembers members
  | .array items => mentioned items
termination_by structural expression

/-- The declared types that several type expressions mention. -/
def mentionedInEach (expressions : List TypeExpr) : List (Option String × String) :=
  match expressions with
  | [] => []
  | first :: rest => mentioned first ++ mentionedInEach rest
termination_by structural expressions

/-- The declared types that the members of an object type mention. -/
def mentionedInMembers (members : List (MemberOf TypeExpr)) : List (Option String × String) :=
  match members with
  | [] => []
  | ⟨_, _, type⟩ :: rest => mentioned type ++ mentionedInMembers rest
termination_by structural members

end

@[simp] theorem mentionedInEach_eq_flatMap (expressions : List TypeExpr) :
    mentionedInEach expressions = expressions.flatMap mentioned := by
  induction expressions with
  | nil => rfl
  | cons first rest inductionHypothesis =>
      rw [mentionedInEach, inductionHypothesis, List.flatMap_cons]

@[simp] theorem mentionedInMembers_eq_flatMap (members : List Member) :
    mentionedInMembers members = members.flatMap (fun entry => mentioned entry.type) := by
  induction members with
  | nil => rfl
  | cons first rest inductionHypothesis =>
      rw [mentionedInMembers, inductionHypothesis, List.flatMap_cons]

end TypeExpr

/-! ## The type of a schema -/

@[simp] theorem synthesizeEach_eq_map (context : TypeContext) (schemas : List Schema) :
    synthesizeEach context schemas = schemas.map (synthesize context) := by
  induction schemas with
  | nil => rfl
  | cons first rest inductionHypothesis =>
      rw [synthesizeEach, inductionHypothesis, List.map_cons]

@[simp] theorem synthesizeProperties_eq_map (context : TypeContext)
    (properties : List Schema.Property) :
    synthesizeProperties context properties =
      properties.map (fun property =>
        ⟨property.name, property.deprecated, synthesize context property.schema⟩) := by
  induction properties with
  | nil => rfl
  | cons first rest inductionHypothesis =>
      rw [synthesizeProperties, inductionHypothesis, List.map_cons]

/-- What the type of a schema mentions for a reference. -/
def mention (context : TypeContext) (target : String) : Option String × String :=
  (context.qualifier, Pointer.targetName target)

theorem mentioned_primitiveType (type : Schema.Primitive) :
    (primitiveType type).mentioned = [] := by
  cases type <;> rfl

theorem mentioned_enumerationType (values : List Schema.Literal) :
    (enumerationType values).mentioned = [] := by
  cases values with
  | nil => rfl
  | cons first rest =>
      have union : enumerationType (first :: rest) = .union ((first :: rest).map literalType) := rfl
      rw [union, TypeExpr.mentioned, TypeExpr.mentionedInEach_eq_flatMap, List.flatMap_eq_nil_iff]
      intro expression member
      rcases List.mem_map.mp member with ⟨value, _, rfl⟩
      cases value <;> rfl

/-- Where the mentions of each part are those of its references, the mentions of all
parts together are. -/
private theorem mentioned_parts_perm {Part : Type} (context : TypeContext) (parts : List Part)
    (schemaOf : Part -> Schema)
    (each : ∀ part ∈ parts, (synthesize context (schemaOf part)).mentioned.Perm
      ((schemaOf part).references.map (mention context))) :
    (parts.flatMap (fun part => (synthesize context (schemaOf part)).mentioned)).Perm
      ((parts.flatMap (fun part => (schemaOf part).references)).map (mention context)) := by
  rw [List.map_flatMap]
  exact List.Perm.flatMap_left parts each

/-- The type of a schema mentions exactly what its references name, as many times. -/
theorem mentioned_synthesize_perm (context : TypeContext) (schema : Schema) :
    (synthesize context schema).mentioned.Perm (schema.references.map (mention context)) := by
  induction schema with
  | nullable inner inductionHypothesis =>
      simpa [synthesize, TypeExpr.mentioned, Schema.references] using inductionHypothesis
  | reference target => exact List.Perm.refl _
  | oneOf alternatives inductionHypothesis =>
      simpa [synthesize, TypeExpr.mentioned, Schema.references, List.flatMap_map] using
        mentioned_parts_perm context alternatives id inductionHypothesis
  | allOf members inductionHypothesis =>
      simpa [synthesize, TypeExpr.mentioned, Schema.references, List.flatMap_map] using
        mentioned_parts_perm context members id inductionHypothesis
  | primitive type format =>
      rw [synthesize, mentioned_primitiveType, Schema.references, List.map_nil]
  | enumeration values =>
      rw [synthesize, mentioned_enumerationType, Schema.references, List.map_nil]
  | map values inductionHypothesis =>
      cases values with
      | none => exact List.Perm.refl _
      | some values => exact inductionHypothesis values rfl
  | object properties inductionHypothesis =>
      rw [synthesize, TypeExpr.mentioned, TypeExpr.mentionedInMembers_eq_flatMap,
        Schema.references, Schema.referencesOfProperties_eq_flatMap]
      -- Sorting the members moves mentions around, the rest is as for the other lists.
      refine ((Text.sortOn_perm MemberOf.name _).flatMap_right _).trans ?_
      rw [synthesizeProperties_eq_map, List.flatMap_map]
      exact mentioned_parts_perm context properties Schema.PropertyOf.schema inductionHypothesis
  | array items inductionHypothesis =>
      cases items with
      | none => exact List.Perm.refl _
      | some items => exact inductionHypothesis items rfl
  | unknown => exact List.Perm.refl _

/-- Putting the fallback type in the place of references whose targets are not declared
changes nothing exactly when there are none. -/
theorem synthesize_withoutDangling_eq_iff (context : TypeContext) (declared : String -> Bool)
    (schema : Schema) :
    synthesize context (schema.withoutDangling declared) = synthesize context schema ↔
      ∀ target ∈ schema.references, declared (Pointer.targetName target) := by
  constructor
  · intro same
    -- The two types mention equally many names, so the filter has dropped no reference.
    have kept := (mentioned_synthesize_perm context (schema.withoutDangling declared)).length_eq
    have all := (mentioned_synthesize_perm context schema).length_eq
    rw [same, all, List.length_map, List.length_map, Schema.references_withoutDangling] at kept
    exact List.length_filter_eq_length_iff.mp kept.symm
  · intro known
    rw [Schema.withoutDangling_eq_self known]

end TypeScript
end OpenApiTypes
