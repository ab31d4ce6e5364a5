import OpenApiTypes.Proofs.Text.Order
import OpenApiTypes.Proofs.TypeScript.Numerals
import OpenApiTypes.Proofs.TypeScript.Phrases
import OpenApiTypes.Proofs.TypeScript.References

namespace OpenApiTypes

/-!
# The tree that the type of a schema is read back to

The text of the type of a schema is a type expression, and its tree says what the schema
says: nothing is regrouped by the operators and suffixes around it, and no name or literal
is read as something else.
-/

/-- The schema can be written as a type: compositions are not empty, references name
identifiers, and listed strings and property names have no line ends in them. -/
inductive Schema.IsWritable : Schema -> Prop
  | nullable {inner : Schema} (inside : inner.IsWritable) : IsWritable (.nullable inner)
  | reference {target : String} (identifier : Naming.isIdentifier (Pointer.targetName target)) :
      IsWritable (.reference target)
  | oneOf {alternatives : List Schema} (filled : alternatives ≠ [])
      (inside : ∀ schema ∈ alternatives, IsWritable schema) : IsWritable (.oneOf alternatives)
  | allOf {members : List Schema} (filled : members ≠ [])
      (inside : ∀ schema ∈ members, IsWritable schema) : IsWritable (.allOf members)
  | primitive (type : Schema.Primitive) (format : Option String) :
      IsWritable (.primitive type format)
  | enumeration {values : List Schema.Literal}
      (onLine : forall value : String,
        Schema.Literal.string value ∈ values -> TypeScript.StaysOnLine value) :
      IsWritable (.enumeration values)
  | anyMap : IsWritable (.map none)
  | map {values : Schema} (inside : values.IsWritable) : IsWritable (.map (some values))
  | object {properties : List Schema.Property}
      (onLine : ∀ property ∈ properties, TypeScript.StaysOnLine property.name)
      (inside : ∀ property ∈ properties, IsWritable property.schema) :
      IsWritable (.object properties)
  | anyArray : IsWritable (.array none)
  | array {items : Schema} (inside : items.IsWritable) : IsWritable (.array (some items))
  | unknown : IsWritable .unknown

namespace TypeScript

/-! ## The tree of a schema -/

def primitiveTree : Schema.Primitive -> TypeTree
  | .null => .name none "null"
  | .number | .integer => .name none "number"
  | .boolean => .name none "boolean"
  | .string => .name none "string"

def literalTree : Schema.Literal -> TypeTree
  | .string value => .string value
  | .number value => .number value.text
  | .boolean true => .name none "true"
  | .boolean false => .name none "false"
  | .null => .name none "null"

def enumerationTree : List Schema.Literal -> TypeTree
  | [] => .name none "never"
  | values => .combined .union (values.map literalTree)

mutual

/-- What a schema says as a type. -/
def treeOf (context : TypeContext) (schema : Schema) : TypeTree :=
  match schema with
  | .nullable inner => .operation .union [treeOf context inner, .name none "null"]
  | .reference target => .name context.qualifier (Pointer.targetName target)
  | .oneOf alternatives => .combined .union (treesOf context alternatives)
  | .allOf members => .combined .intersection (treesOf context members)
  | .primitive type _ => primitiveTree type
  | .enumeration values => enumerationTree values
  | .map none => .record (.name none "unknown")
  | .map (some values) => .record (treeOf context values)
  | .object properties => .object (Text.sortOn Prod.fst (entriesOf context properties))
  | .array none => .array (.name none "unknown")
  | .array (some items) => .array (treeOf context items)
  | .unknown => .name none context.fallback.text
termination_by structural schema

/-- What several schemas say. -/
def treesOf (context : TypeContext) (schemas : List Schema) : List TypeTree :=
  match schemas with
  | [] => []
  | first :: rest => treeOf context first :: treesOf context rest
termination_by structural schemas

/-- What properties say, in declaration order. -/
def entriesOf (context : TypeContext) (properties : List (Schema.PropertyOf Schema)) :
    List (String × TypeTree) :=
  match properties with
  | [] => []
  | ⟨name, _, schema⟩ :: rest => (name, treeOf context schema) :: entriesOf context rest
termination_by structural properties

end

theorem treesOf_eq_map (context : TypeContext) (schemas : List Schema) :
    treesOf context schemas = schemas.map (treeOf context) := by
  induction schemas with
  | nil => rfl
  | cons first rest inductionHypothesis => rw [treesOf, inductionHypothesis, List.map_cons]

theorem entriesOf_eq_map (context : TypeContext) (properties : List Schema.Property) :
    entriesOf context properties =
      properties.map (fun property => (property.name, treeOf context property.schema)) := by
  induction properties with
  | nil => rfl
  | cons first rest inductionHypothesis => rw [entriesOf, inductionHypothesis, List.map_cons]

/-! ## The text of a schema -/

namespace TypeExpr

theorem texts_eq_map (expressions : List TypeExpr) : texts expressions = expressions.map text := by
  induction expressions with
  | nil => rfl
  | cons first rest inductionHypothesis => rw [texts, inductionHypothesis, List.map_cons]

theorem memberTexts_eq_map (members : List Member) :
    memberTexts members =
      members.map (fun member => memberText member.name member.deprecated member.type.text) := by
  induction members with
  | nil => rfl
  | cons first rest inductionHypothesis => rw [memberTexts, inductionHypothesis, List.map_cons]

theorem text_union (members : List TypeExpr) :
    text (.union members) = "(" ++ String.intercalate " | " (members.map text) ++ ")" := by
  rw [← texts_eq_map]
  rfl

theorem text_intersection (members : List TypeExpr) :
    text (.intersection members) = "(" ++ String.intercalate " & " (members.map text) ++ ")" := by
  rw [← texts_eq_map]
  rfl

theorem text_object {members : List Member} (filled : members ≠ []) :
    text (.object members) =
      "\x7b " ++ String.intercalate " " (members.map fun member =>
        memberText member.name member.deprecated member.type.text) ++ " \x7d" := by
  rw [← memberTexts_eq_map]
  cases members with
  | nil => exact absurd rfl filled
  | cons first rest => rfl

end TypeExpr

theorem reads_literal {value : Schema.Literal}
    (onLine : forall text : String, value = .string text -> StaysOnLine text) :
    Reads (literalType value).text .primary (literalTree value) := by
  cases value with
  | string text => exact Reads.singleQuoted (onLine text rfl)
  | number number =>
      obtain ⟨digits, numeral, same | same⟩ := isSignedNumeral_text number
      · have reads := Reads.numeral numeral
        rwa [← same] at reads
      · have reads := Reads.negative numeral
        rwa [← same] at reads
  | boolean value => cases value <;> exact Reads.name rfl
  | null => exact Reads.name rfl

theorem reads_primitive (type : Schema.Primitive) :
    Reads (primitiveType type).text .primary (primitiveTree type) := by
  cases type <;> exact Reads.name rfl

theorem reads_enumeration {values : List Schema.Literal}
    (onLine : forall text : String, Schema.Literal.string text ∈ values -> StaysOnLine text) :
    Reads (enumerationType values).text .primary (enumerationTree values) := by
  cases values with
  | nil => exact Reads.name rfl
  | cons first rest =>
      have each : ∀ value ∈ first :: rest,
          Reads (literalType value).text (Operator.operand .union) (literalTree value) := by
        intro value member
        have literal := reads_literal (fun text same => onLine text (same ▸ member))
        have intersection : Reads _ (.operation .intersection) _ :=
          literal.array_of_primary.operation_of_operand
        exact intersection
      have union : enumerationType (first :: rest) =
          .union ((first :: rest).map literalType) := rfl
      rw [union, TypeExpr.text_union, List.map_map]
      exact (Reads.operation (List.cons_ne_nil first rest) each).group

theorem reads_object {context : TypeContext} {properties : List Schema.Property}
    (each : ∀ property ∈ properties, StaysOnLine property.name ∧
      Reads (typeText context property.schema) .whole (treeOf context property.schema)) :
    Reads (typeText context (.object properties)) .primary
      (treeOf context (.object properties)) := by
  -- The members and the entries of the tree are both made of the sorted properties.
  rw [typeText, synthesize, synthesizeProperties_eq_map, Text.sortOn_map, treeOf,
    entriesOf_eq_map, Text.sortOn_map]
  have eachSorted : ∀ property ∈ Text.sortOn Schema.PropertyOf.name properties,
      StaysOnLine property.name ∧
        Reads (typeText context property.schema) .whole (treeOf context property.schema) := by
    intro property member
    exact each property ((Text.sortOn_perm _ properties).mem_iff.mp member)
  dsimp only
  generalize Text.sortOn Schema.PropertyOf.name properties = sorted at eachSorted
  cases sorted with
  | nil => exact Reads.emptyObject
  | cons first rest =>
      rw [TypeExpr.text_object, List.map_map]
      · exact Reads.object (List.cons_ne_nil first rest) _ eachSorted
      · exact List.cons_ne_nil _ _

/-- The text of the type of a schema is a phrase, so it may stand under a suffix. -/
theorem reads_typeText {context : TypeContext}
    (qualified : ∀ name ∈ context.qualifier, Naming.isIdentifier name) {schema : Schema}
    (writable : schema.IsWritable) :
    Reads (typeText context schema) .array (treeOf context schema) := by
  induction writable with
  | nullable inside inductionHypothesis =>
      have null : Reads "null" .array (.name none "null") := (Reads.name rfl).array_of_primary
      have union : Reads _ (.operation .union) _ :=
        Reads.pair inductionHypothesis.operation_of_operand null.operation_of_operand
      exact union.group.array_of_primary
  | reference identifier =>
      exact (Reads.declaredText qualified identifier).array_of_primary
  | oneOf filled inside inductionHypothesis =>
      rw [typeText, synthesize, TypeExpr.text_union, synthesizeEach_eq_map, List.map_map, treeOf,
        treesOf_eq_map]
      have union : Reads _ (.operation .union) _ := Reads.operation filled
        (fun schema member => (inductionHypothesis schema member).operation_of_operand)
      exact union.group.array_of_primary
  | allOf filled inside inductionHypothesis =>
      rw [typeText, synthesize, TypeExpr.text_intersection, synthesizeEach_eq_map, List.map_map,
        treeOf, treesOf_eq_map]
      have intersection : Reads _ (.operation .intersection) _ :=
        Reads.operation filled inductionHypothesis
      exact intersection.operation_of_operand.group.array_of_primary
  | primitive type format => exact (reads_primitive type).array_of_primary
  | enumeration onLine => exact (reads_enumeration onLine).array_of_primary
  | anyMap =>
      have unknown : Reads "unknown" .primary (.name none "unknown") := Reads.name rfl
      exact unknown.array_of_primary.whole_of_array.record.array_of_primary
  | map inside inductionHypothesis =>
      exact inductionHypothesis.whole_of_array.record.array_of_primary
  | object onLine inside inductionHypothesis =>
      refine (reads_object ?_).array_of_primary
      intro property member
      exact ⟨onLine property member, (inductionHypothesis property member).whole_of_array⟩
  | anyArray =>
      have unknown : Reads "unknown" .primary (.name none "unknown") := Reads.name rfl
      exact unknown.array_of_primary.array
  | array inside inductionHypothesis => exact inductionHypothesis.array
  | unknown =>
      have identifier : Naming.isIdentifier context.fallback.text := by
        cases context.fallback <;> rfl
      exact (Reads.name identifier).array_of_primary

/-- The text of the type of a schema has one tree, and it is that of the schema. -/
theorem parses_typeText_iff (context : TypeContext)
    (qualified : ∀ name ∈ context.qualifier, Naming.isIdentifier name) {schema : Schema}
    (writable : schema.IsWritable) (tree : TypeTree) :
    Parses (typeText context schema) tree ↔ tree = treeOf context schema := by
  have parses : Parses (typeText context schema) (treeOf context schema) :=
    (reads_typeText qualified writable).whole_of_array.parses
  constructor
  · intro other
    exact other.unique parses
  · rintro rfl
    exact parses

def qualifiedContext : TypeContext := ⟨some "s", .unknown⟩

/-- A nullable list of an intersection that has unions in it, written
`((s.Base & (('it\'s' | -1) | { /** @deprecated */ 'content-type': string; id: unknown[];
}))[] | null)`. -/
def nestedSchema : Schema :=
  .nullable (.array (some (.allOf [.reference "#/components/schemas/Base",
    .oneOf [.enumeration [.string "it's", .number (.integer (-1))],
      .object [⟨"id", false, .array none⟩, ⟨"content-type", true, .primitive .string none⟩]]])))

def nestedTree : TypeTree :=
  .operation .union
    [.array (.operation .intersection [.name (some "s") "Base",
      .operation .union [.operation .union [.string "it's", .number "-1"],
        .object [("content-type", .name none "string"), ("id", .array (.name none "unknown"))]]]),
      .name none "null"]

theorem isWritable_nestedSchema : nestedSchema.IsWritable := by
  have base : Schema.IsWritable (.reference "#/components/schemas/Base") :=
    .reference (by decide)
  have listed : Schema.IsWritable (.enumeration [.string "it's", .number (.integer (-1))]) := by
    refine .enumeration ?_
    intro value member
    cases member with
    | head => decide
    | tail _ later => cases later with | tail _ later => cases later
  have members : Schema.IsWritable (.object
      [⟨"id", false, .array none⟩, ⟨"content-type", true, .primitive .string none⟩]) := by
    refine .object ?_ ?_
    · simp only [List.forall_mem_cons]
      exact ⟨by decide, by decide, List.forall_mem_nil _⟩
    · simp only [List.forall_mem_cons]
      exact ⟨.anyArray, .primitive .string none, List.forall_mem_nil _⟩
  have alternatives := Schema.IsWritable.oneOf (List.cons_ne_nil _ _)
    (List.forall_mem_cons.mpr ⟨listed, List.forall_mem_singleton.mpr members⟩)
  exact .nullable (.array (.allOf (List.cons_ne_nil _ _)
    (List.forall_mem_cons.mpr ⟨base, List.forall_mem_singleton.mpr alternatives⟩)))

theorem treeOf_nestedSchema : treeOf qualifiedContext nestedSchema = nestedTree := by
  have sorted : Text.sortOn Prod.fst
      [("id", .array (.name none "unknown")), ("content-type", .name none "string")] =
        [("content-type", TypeTree.name none "string"), ("id", .array (.name none "unknown"))] :=
    Text.sortOn_eq_of_perm (List.Perm.swap _ _ _) (by decide)
  simp only [nestedSchema, treeOf, treesOf, entriesOf, primitiveTree, sorted]
  rfl

/-- The nested schema satisfies the hypotheses. -/
theorem parses_nestedSchema :
    (∀ name ∈ qualifiedContext.qualifier, Naming.isIdentifier name) ∧
      nestedSchema.IsWritable ∧ Parses (typeText qualifiedContext nestedSchema) nestedTree := by
  have qualified : ∀ name ∈ qualifiedContext.qualifier, Naming.isIdentifier name := by decide
  refine ⟨qualified, isWritable_nestedSchema, ?_⟩
  exact (parses_typeText_iff qualifiedContext qualified isWritable_nestedSchema nestedTree).mpr
    treeOf_nestedSchema.symm

end TypeScript
end OpenApiTypes
