import OpenApiTypes.Proofs.Schema.Everywhere
import OpenApiTypes.Proofs.TypeScript.References

namespace OpenApiTypes
namespace TypeScript

/-!
# The parts of the type of a schema

The type expressions in the type of a schema are the types of the schemas in it, and a few
that stand for no schema: a null, a listed value, or what a missing schema admits.  So what
holds everywhere in the type can be said of the schema.
-/

namespace TypeExpr

/-- Induction with one case for each way to put a type expression together. -/
@[induction_eliminator]
theorem induct {motive : TypeExpr -> Prop}
    (predefined : forall name : String, motive (.predefined name))
    (declared : forall (qualifier : Option String) (name : String),
      motive (.declared qualifier name))
    (literal : forall value : LiteralType, motive (.literal value))
    (union : forall members : List TypeExpr,
      (∀ member ∈ members, motive member) -> motive (.union members))
    (intersection : forall members : List TypeExpr,
      (∀ member ∈ members, motive member) -> motive (.intersection members))
    (record : forall values : TypeExpr, motive values -> motive (.record values))
    (object : forall members : List Member,
      (∀ member ∈ members, motive member.type) -> motive (.object members))
    (array : forall items : TypeExpr, motive items -> motive (.array items))
    (expression : TypeExpr) : motive expression := by
  refine @TypeExpr.rec motive (fun expressions => ∀ one ∈ expressions, motive one)
    (fun members => ∀ one ∈ members, motive one.type) (fun entry => motive entry.type)
    predefined declared literal union intersection record object array
    ?_ ?_ ?_ ?_ ?_ expression
  · exact nofun
  · intro first rest firstHolds restHolds
    exact List.forall_mem_cons.mpr ⟨firstHolds, restHolds⟩
  · exact nofun
  · intro first rest firstHolds restHolds
    exact List.forall_mem_cons.mpr ⟨firstHolds, restHolds⟩
  · intro _ _ _ holds
    exact holds

/-- The type expressions that stand directly in a type expression. -/
def children : TypeExpr -> List TypeExpr
  | .union members => members
  | .intersection members => members
  | .record values => [values]
  | .object members => members.map MemberOf.type
  | .array items => [items]
  | .predefined _ | .declared _ _ | .literal _ => []

/-- Induction with one case: what holds of a type expression follows from those that stand
directly in it. -/
theorem children_induct {motive : TypeExpr -> Prop}
    (step : forall expression : TypeExpr,
      (∀ child ∈ expression.children, motive child) -> motive expression)
    (expression : TypeExpr) : motive expression := by
  induction expression with
  | predefined name => exact step _ nofun
  | declared qualifier name => exact step _ nofun
  | literal value => exact step _ nofun
  | union members inductionHypothesis => exact step _ inductionHypothesis
  | intersection members inductionHypothesis => exact step _ inductionHypothesis
  | record values inductionHypothesis =>
      exact step _ (List.forall_mem_singleton.mpr inductionHypothesis)
  | object members inductionHypothesis =>
      exact step _ (List.forall_mem_map.mpr inductionHypothesis)
  | array items inductionHypothesis =>
      exact step _ (List.forall_mem_singleton.mpr inductionHypothesis)

/-- A property holds at every type expression that stands in a type expression. -/
def Everywhere (property : TypeExpr -> Prop) (expression : TypeExpr) : Prop :=
  HoldsEverywhere children property expression

theorem everywhere_iff (property : TypeExpr -> Prop) (expression : TypeExpr) :
    expression.Everywhere property ↔
      property expression ∧ ∀ child ∈ expression.children, child.Everywhere property :=
  holdsEverywhere_iff children property expression

theorem everywhere_of_children_eq_nil {property : TypeExpr -> Prop} {expression : TypeExpr}
    (leaf : expression.children = []) :
    expression.Everywhere property ↔ property expression := by
  rw [everywhere_iff, leaf]
  exact and_iff_left nofun

end TypeExpr

/-! ## The type of a schema -/

/-- The type expressions in the type of a schema that stand for no schema in it. -/
def leaves : Schema -> List TypeExpr
  | .nullable _ => [.predefined "null"]
  | .enumeration values => values.map literalType
  | .map none | .array none => [.predefined "unknown"]
  | _ => []

/-- A leaf is a name or the type of a listed value. -/
theorem eq_of_mem_leaves {schema : Schema} {leaf : TypeExpr} (added : leaf ∈ leaves schema) :
    leaf = .predefined "null" ∨ leaf = .predefined "unknown" ∨
      Exists fun values : List Schema.Literal =>
        schema = .enumeration values ∧ ∃ value ∈ values, literalType value = leaf := by
  unfold leaves at added
  split at added
  next => exact .inl (List.mem_singleton.mp added)
  next values => exact .inr (.inr ⟨values, rfl, List.mem_map.mp added⟩)
  next => exact .inr (.inl (List.mem_singleton.mp added))
  next => exact .inr (.inl (List.mem_singleton.mp added))
  next => cases added

theorem children_of_mem_leaves {schema : Schema} {leaf : TypeExpr} (added : leaf ∈ leaves schema) :
    leaf.children = [] := by
  rcases eq_of_mem_leaves added with rfl | rfl | ⟨_, _, value, _, rfl⟩
  · rfl
  · rfl
  · cases value <;> rfl

/-- In the type of a schema stand the types of the schemas in it, and the leaves. -/
theorem children_synthesize_perm (context : TypeContext) (schema : Schema) :
    (synthesize context schema).children.Perm
      (schema.children.map (synthesize context) ++ leaves schema) := by
  cases schema with
  | nullable inner => exact .refl _
  | reference target => exact .refl _
  | oneOf alternatives =>
      have noLeaf : leaves (.oneOf alternatives) = [] := rfl
      rw [synthesize, synthesizeEach_eq_map, noLeaf, List.append_nil]
      exact .refl _
  | allOf members =>
      have noLeaf : leaves (.allOf members) = [] := rfl
      rw [synthesize, synthesizeEach_eq_map, noLeaf, List.append_nil]
      exact .refl _
  | primitive type format => cases type <;> exact .refl _
  | enumeration values => cases values <;> exact .refl _
  | map values => cases values <;> exact .refl _
  | object properties =>
      have noLeaf : leaves (.object properties) = [] := rfl
      rw [synthesize, synthesizeProperties_eq_map, TypeExpr.children, Schema.children, noLeaf,
        List.append_nil]
      refine ((Text.sortOn_perm MemberOf.name _).map MemberOf.type).trans ?_
      rw [List.map_map, List.map_map]
      exact .refl _
  | array items => cases items <;> exact .refl _
  | unknown => exact .refl _

/-- What holds everywhere in the type of a schema holds, for every schema in it, at its type
and at the leaves. -/
theorem everywhere_synthesize_iff (context : TypeContext) (property : TypeExpr -> Prop)
    (schema : Schema) :
    (synthesize context schema).Everywhere property ↔
      schema.Everywhere (fun part =>
        property (synthesize context part) ∧ ∀ leaf ∈ leaves part, property leaf) := by
  induction schema using Schema.children_induct with
  | step schema inductionHypothesis =>
      have inside : (∀ child ∈ (synthesize context schema).children, child.Everywhere property) ↔
          (∀ leaf ∈ leaves schema, property leaf) ∧
            ∀ inner ∈ schema.children, (synthesize context inner).Everywhere property := by
        simp only [(children_synthesize_perm context schema).mem_iff, List.forall_mem_append,
          List.forall_mem_map]
        rw [and_comm]
        refine and_congr_left fun _ => forall₂_congr fun leaf added => ?_
        exact TypeExpr.everywhere_of_children_eq_nil (children_of_mem_leaves added)
      rw [TypeExpr.everywhere_iff, Schema.everywhere_iff, inside, and_assoc]
      exact and_congr_right fun _ => and_congr_right fun _ => forall₂_congr inductionHypothesis

end TypeScript
end OpenApiTypes
