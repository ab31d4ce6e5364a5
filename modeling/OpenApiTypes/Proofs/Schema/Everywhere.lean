import OpenApiTypes.Proofs.Schema.References
import Mathlib.Logic.Relation

namespace OpenApiTypes

/-!
# What holds everywhere in a tree

A schema stands inside another one when it is reached from it by steps to a schema that
stands directly in the former.  What holds at every schema inside is said once for all forms
here: it holds at the schema itself and everywhere in those that stand directly in it.  Type
expressions are trees of the same kind, so that the notion does not depend on what the tree
is made of.
-/

section Trees

variable {Node : Type}

/-- A property holds at a node of a tree and at every node below it. -/
def HoldsEverywhere (children : Node -> List Node) (property : Node -> Prop) (node : Node) : Prop :=
  forall part : Node, Relation.ReflTransGen (fun whole part => part ∈ children whole) node part ->
    property part

theorem holdsEverywhere_iff (children : Node -> List Node) (property : Node -> Prop)
    (node : Node) :
    HoldsEverywhere children property node ↔
      property node ∧ ∀ child ∈ children node, HoldsEverywhere children property child := by
  constructor
  · intro holds
    refine ⟨holds node .refl, ?_⟩
    intro child listed part inside
    exact holds part (.head listed inside)
  · rintro ⟨here, below⟩ part inside
    cases inside using Relation.ReflTransGen.head_induction_on with
    | refl => exact here
    | head listed deeper => exact below _ listed part deeper

end Trees

namespace Schema

/-- The schemas that stand directly in a schema. -/
def children : Schema -> List Schema
  | .nullable inner => [inner]
  | .oneOf alternatives => alternatives
  | .allOf members => members
  | .map values => values.toList
  | .object properties => properties.map PropertyOf.schema
  | .array items => items.toList
  | .reference _ | .primitive _ _ | .enumeration _ | .unknown => []

/-- The second schema stands in the first one, at any depth.  Every schema stands in
itself. -/
def Contains (schema part : Schema) : Prop :=
  Relation.ReflTransGen (fun whole part => part ∈ children whole) schema part

/-- A property holds at every schema that stands in a schema. -/
def Everywhere (property : Schema -> Prop) (schema : Schema) : Prop :=
  HoldsEverywhere children property schema

theorem everywhere_iff (property : Schema -> Prop) (schema : Schema) :
    schema.Everywhere property ↔
      property schema ∧ ∀ child ∈ schema.children, child.Everywhere property :=
  holdsEverywhere_iff children property schema

/-- Induction with one case: what holds of a schema follows from the schemas that stand
directly in it. -/
theorem children_induct {motive : Schema -> Prop}
    (step : forall schema : Schema, (∀ child ∈ schema.children, motive child) -> motive schema)
    (schema : Schema) : motive schema := by
  induction schema with
  | nullable inner inductionHypothesis =>
      exact step _ (List.forall_mem_singleton.mpr inductionHypothesis)
  | oneOf alternatives inductionHypothesis => exact step _ inductionHypothesis
  | allOf members inductionHypothesis => exact step _ inductionHypothesis
  | map values inductionHypothesis =>
      exact step _ (fun child listed => inductionHypothesis child (Option.mem_toList.mp listed))
  | object properties inductionHypothesis =>
      exact step _ (List.forall_mem_map.mpr inductionHypothesis)
  | array items inductionHypothesis =>
      exact step _ (fun child listed => inductionHypothesis child (Option.mem_toList.mp listed))
  | reference target => exact step _ nofun
  | primitive type format => exact step _ nofun
  | enumeration values => exact step _ nofun
  | unknown => exact step _ nofun

end Schema
end OpenApiTypes
