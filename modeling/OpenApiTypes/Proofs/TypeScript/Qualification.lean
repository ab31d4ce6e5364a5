import OpenApiTypes.Proofs.Text.Order
import OpenApiTypes.Proofs.TypeScript.Parts
import OpenApiTypes.Proofs.TypeScript.RoundTrip

namespace OpenApiTypes
namespace TypeScript

/-!
# Types under the alias of a module

A module that does not declare the types of the schemas writes each of their names behind the
alias of the module that does.  A type expression is cut into stretches here: the names of
declared types, and the texts between them.  The alias stands in front of the names and
changes nothing else, so two modules that use a schema write the same stretches.
-/

/-- A stretch of the text of a type. -/
inductive Stretch where
  /-- A text in which no declared type is named. -/
  | fixed (text : String)
  /-- The name of a declared type, without a qualifier. -/
  | declared (name : String)
deriving DecidableEq

namespace Stretch

/-- The text of a stretch where a text stands in front of the names. -/
def textBehind (front : String) : Stretch -> String
  | .fixed text => text
  | .declared name => front ++ name

/-- The name in a stretch. -/
def name? : Stretch -> Option String
  | .fixed _ => none
  | .declared name => some name

end Stretch

/-- The text of stretches where a text stands in front of the names. -/
def textBehind (front : String) (stretches : List Stretch) : String :=
  String.join (stretches.map (Stretch.textBehind front))

/-- The names in stretches. -/
def namesIn (stretches : List Stretch) : List String :=
  stretches.filterMap Stretch.name?

section Joining

variable {front separator : String}

theorem textBehind_cons (stretch : Stretch) (more : List Stretch) :
    textBehind front (stretch :: more) = stretch.textBehind front ++ textBehind front more :=
  String.join_cons

theorem textBehind_append (first second : List Stretch) :
    textBehind front (first ++ second) = textBehind front first ++ textBehind front second := by
  rw [textBehind, List.map_append, String.join_append]
  rfl

theorem textBehind_singleton (stretch : Stretch) :
    textBehind front [stretch] = stretch.textBehind front := by
  rw [textBehind, List.map_singleton, String.join_cons, String.join_nil, String.append_empty]

theorem textBehind_fixed (text : String) : textBehind front [.fixed text] = text :=
  textBehind_singleton (.fixed text)

theorem textBehind_enclosed (opening closing : String) (inside : List Stretch) :
    textBehind front (.fixed opening :: inside ++ [.fixed closing]) =
      opening ++ textBehind front inside ++ closing := by
  rw [textBehind_append, textBehind_cons, textBehind_fixed]
  rfl

theorem textBehind_intercalate (rows : List (List Stretch)) :
    textBehind front (List.intercalate [.fixed separator] rows) =
      String.intercalate separator (rows.map (textBehind front)) := by
  induction rows with
  | nil => rfl
  | cons first more inductionHypothesis =>
      cases more with
      | nil => rw [List.intercalate_singleton, List.map_singleton, String.intercalate_singleton]
      | cons second more =>
          rw [List.intercalate_cons_cons, textBehind_append, textBehind_append, textBehind_fixed,
            inductionHypothesis, List.map_cons, List.map_cons, List.map_cons,
            String.intercalate_cons_cons]

theorem namesIn_append (first second : List Stretch) :
    namesIn (first ++ second) = namesIn first ++ namesIn second :=
  List.filterMap_append

theorem namesIn_enclosed (opening closing : String) (inside : List Stretch) :
    namesIn (.fixed opening :: inside ++ [.fixed closing]) = namesIn inside := by
  rw [namesIn_append]
  exact List.append_nil _

theorem namesIn_intercalate (rows : List (List Stretch)) :
    namesIn (List.intercalate [.fixed separator] rows) = rows.flatMap namesIn := by
  induction rows with
  | nil => rfl
  | cons first more inductionHypothesis =>
      cases more with
      | nil => rw [List.intercalate_singleton, List.flatMap_singleton]
      | cons second more =>
          have nameless : namesIn [.fixed separator] = [] := rfl
          rw [List.intercalate_cons_cons, namesIn_append, namesIn_append, inductionHypothesis,
            nameless, List.append_nil, ← List.flatMap_cons]

end Joining

namespace TypeExpr

/-! ## Stretches -/

mutual

/-- The stretches of the text of a type expression, whose qualifiers do not matter. -/
def stretches (expression : TypeExpr) : List Stretch :=
  match expression with
  | .predefined name => [.fixed name]
  | .declared _ name => [.declared name]
  | .literal value => [.fixed value.text]
  | .union members =>
      .fixed "(" :: List.intercalate [.fixed " | "] (stretchesOfEach members) ++ [.fixed ")"]
  | .intersection members =>
      .fixed "(" :: List.intercalate [.fixed " & "] (stretchesOfEach members) ++ [.fixed ")"]
  | .record values => .fixed "Record<string, " :: stretches values ++ [.fixed ">"]
  | .object members =>
      match stretchesOfMembers members with
      | [] => [.fixed "\x7b\x7d"]
      | shown => .fixed "\x7b " :: List.intercalate [.fixed " "] shown ++ [.fixed " \x7d"]
  | .array items => stretches items ++ [.fixed "[]"]
termination_by structural expression

/-- The stretches of several type expressions. -/
def stretchesOfEach (expressions : List TypeExpr) : List (List Stretch) :=
  match expressions with
  | [] => []
  | first :: rest => stretches first :: stretchesOfEach rest
termination_by structural expressions

/-- The stretches of the members of an object type. -/
def stretchesOfMembers (members : List (MemberOf TypeExpr)) : List (List Stretch) :=
  match members with
  | [] => []
  | ⟨name, deprecated, type⟩ :: rest =>
      (.fixed ((if deprecated then "/** @deprecated */ " else "") ++
          Naming.propertyKey name ++ ": ") :: stretches type ++ [.fixed ";"]) ::
        stretchesOfMembers rest
termination_by structural members

end

theorem stretchesOfEach_eq_map (expressions : List TypeExpr) :
    stretchesOfEach expressions = expressions.map stretches := by
  induction expressions with
  | nil => rfl
  | cons first rest inductionHypothesis =>
      rw [stretchesOfEach, inductionHypothesis, List.map_cons]

/-- The stretches of a member of an object type. -/
def stretchesOfMember (member : Member) : List Stretch :=
  .fixed ((if member.deprecated then "/** @deprecated */ " else "") ++
    Naming.propertyKey member.name ++ ": ") :: member.type.stretches ++ [.fixed ";"]

theorem stretchesOfMembers_eq_map (members : List Member) :
    stretchesOfMembers members = members.map stretchesOfMember := by
  induction members with
  | nil => rfl
  | cons first rest inductionHypothesis =>
      rw [stretchesOfMembers, inductionHypothesis, List.map_cons]
      rfl

theorem stretches_object {members : List Member} (filled : members ≠ []) :
    stretches (.object members) =
      .fixed "\x7b " :: List.intercalate [.fixed " "] (members.map stretchesOfMember) ++
        [.fixed " \x7d"] := by
  rw [← stretchesOfMembers_eq_map]
  cases members with
  | nil => exact absurd rfl filled
  | cons first rest => rfl

/-! ## One qualifier for all names -/

mutual

/-- A type expression with one qualifier, or none, for all declared types in it. -/
def qualified (qualifier : Option String) (expression : TypeExpr) : TypeExpr :=
  match expression with
  | .predefined name => .predefined name
  | .declared _ name => .declared qualifier name
  | .literal value => .literal value
  | .union members => .union (qualifiedEach qualifier members)
  | .intersection members => .intersection (qualifiedEach qualifier members)
  | .record values => .record (qualified qualifier values)
  | .object members => .object (qualifiedMembers qualifier members)
  | .array items => .array (qualified qualifier items)
termination_by structural expression

/-- Several type expressions with one qualifier. -/
def qualifiedEach (qualifier : Option String) (expressions : List TypeExpr) : List TypeExpr :=
  match expressions with
  | [] => []
  | first :: rest => qualified qualifier first :: qualifiedEach qualifier rest
termination_by structural expressions

/-- The members of an object type with one qualifier. -/
def qualifiedMembers (qualifier : Option String) (members : List (MemberOf TypeExpr)) :
    List (MemberOf TypeExpr) :=
  match members with
  | [] => []
  | ⟨name, deprecated, type⟩ :: rest =>
      ⟨name, deprecated, qualified qualifier type⟩ :: qualifiedMembers qualifier rest
termination_by structural members

end

theorem qualifiedEach_eq_map (qualifier : Option String) (expressions : List TypeExpr) :
    qualifiedEach qualifier expressions = expressions.map (qualified qualifier) := by
  induction expressions with
  | nil => rfl
  | cons first rest inductionHypothesis =>
      rw [qualifiedEach, inductionHypothesis, List.map_cons]

/-- A member of an object type with one qualifier. -/
def qualifiedMember (qualifier : Option String) (member : Member) : Member :=
  { member with type := member.type.qualified qualifier }

theorem qualifiedMembers_eq_map (qualifier : Option String) (members : List Member) :
    qualifiedMembers qualifier members = members.map (qualifiedMember qualifier) := by
  induction members with
  | nil => rfl
  | cons first rest inductionHypothesis =>
      rw [qualifiedMembers, inductionHypothesis, List.map_cons]
      rfl

end TypeExpr

/-- What stands in front of the names of declared types. -/
def qualifierText : Option String -> String
  | some qualifier => qualifier ++ "."
  | none => ""

namespace TypeExpr

theorem declaredText_eq (qualifier : Option String) (name : String) :
    declaredText qualifier name = qualifierText qualifier ++ name := by
  cases qualifier with
  | none => exact String.empty_append.symm
  | some qualifier => rfl

/-- The texts of the operands, with what stands between them. -/
theorem intercalate_text_qualified {qualifier : Option String} {members : List TypeExpr}
    (each : ∀ member ∈ members,
      (qualified qualifier member).text = textBehind (qualifierText qualifier) member.stretches)
    (separator : String) :
    String.intercalate separator ((qualifiedEach qualifier members).map text) =
      textBehind (qualifierText qualifier)
        (List.intercalate [.fixed separator] (stretchesOfEach members)) := by
  rw [textBehind_intercalate, qualifiedEach_eq_map, stretchesOfEach_eq_map, List.map_map,
    List.map_map]
  exact congrArg (String.intercalate separator) (List.map_congr_left each)

/-- The text of a member of an object type, when that of its value is known. -/
theorem memberText_qualifiedMember {qualifier : Option String} {member : Member}
    (value : (qualified qualifier member.type).text =
      textBehind (qualifierText qualifier) member.type.stretches) :
    memberText member.name member.deprecated (member.type.qualified qualifier).text =
      textBehind (qualifierText qualifier) (stretchesOfMember member) := by
  rw [stretchesOfMember, textBehind_enclosed, memberText, value]

/-- With one qualifier for all names, a type expression is written as its stretches. -/
theorem text_qualified (qualifier : Option String) (expression : TypeExpr) :
    (qualified qualifier expression).text =
      textBehind (qualifierText qualifier) expression.stretches := by
  induction expression with
  | predefined name => exact (textBehind_fixed name).symm
  | declared other name =>
      exact (declaredText_eq qualifier name).trans (textBehind_singleton (.declared name)).symm
  | literal value => exact (textBehind_fixed value.text).symm
  | union members inductionHypothesis =>
      rw [qualified, text_union, intercalate_text_qualified inductionHypothesis, stretches,
        textBehind_enclosed]
  | intersection members inductionHypothesis =>
      rw [qualified, text_intersection, intercalate_text_qualified inductionHypothesis, stretches,
        textBehind_enclosed]
  | record values inductionHypothesis =>
      have written : (qualified qualifier (.record values)).text =
          "Record<string, " ++ (qualified qualifier values).text ++ ">" := rfl
      rw [written, inductionHypothesis, stretches, textBehind_enclosed]
  | object members inductionHypothesis =>
      cases members with
      | nil => exact (textBehind_fixed _).symm
      | cons first rest =>
          have filled : (first :: rest).map (qualifiedMember qualifier) ≠ [] :=
            List.cons_ne_nil _ _
          rw [qualified, qualifiedMembers_eq_map, text_object filled,
            stretches_object (List.cons_ne_nil _ _), textBehind_enclosed, textBehind_intercalate,
            List.map_map, List.map_map]
          refine congrArg (fun shown => "\x7b " ++ String.intercalate " " shown ++ " \x7d")
            (List.map_congr_left fun member listed => ?_)
          have written := memberText_qualifiedMember (inductionHypothesis member listed)
          exact written
  | array items inductionHypothesis =>
      have written : (qualified qualifier (.array items)).text =
          (qualified qualifier items).text ++ "[]" := rfl
      rw [written, inductionHypothesis, stretches, textBehind_append, textBehind_fixed]

/-- The stretches name the declared types that the type expression mentions. -/
theorem namesIn_stretches (expression : TypeExpr) :
    namesIn expression.stretches = expression.mentioned.map Prod.snd := by
  induction expression with
  | predefined name => rfl
  | declared other name => rfl
  | literal value => rfl
  | union members inductionHypothesis =>
      rw [stretches, namesIn_enclosed, namesIn_intercalate, stretchesOfEach_eq_map, mentioned,
        mentionedInEach_eq_flatMap, List.flatMap_map, List.map_flatMap]
      exact List.flatMap_congr inductionHypothesis
  | intersection members inductionHypothesis =>
      rw [stretches, namesIn_enclosed, namesIn_intercalate, stretchesOfEach_eq_map, mentioned,
        mentionedInEach_eq_flatMap, List.flatMap_map, List.map_flatMap]
      exact List.flatMap_congr inductionHypothesis
  | record values inductionHypothesis =>
      rw [stretches, namesIn_enclosed, inductionHypothesis, mentioned]
  | object members inductionHypothesis =>
      cases members with
      | nil => rfl
      | cons first rest =>
          rw [stretches_object (List.cons_ne_nil _ _), namesIn_enclosed, namesIn_intercalate,
            mentioned, mentionedInMembers_eq_flatMap, List.flatMap_map, List.map_flatMap]
          refine List.flatMap_congr fun member listed => ?_
          rw [stretchesOfMember, namesIn_enclosed]
          exact inductionHypothesis member listed
  | array items inductionHypothesis =>
      rw [stretches, namesIn_append, inductionHypothesis, mentioned]
      exact List.append_nil _

end TypeExpr

/-! ## The type of a schema -/

theorem qualified_enumerationType (qualifier : Option String) (values : List Schema.Literal) :
    (enumerationType values).qualified qualifier = enumerationType values := by
  cases values with
  | nil => rfl
  | cons first rest =>
      have union : enumerationType (first :: rest) = .union ((first :: rest).map literalType) := rfl
      rw [union, TypeExpr.qualified, TypeExpr.qualifiedEach_eq_map, List.map_map]
      refine congrArg TypeExpr.union (List.map_congr_left fun value _ => ?_)
      cases value <;> rfl

/-- The type of a schema under a qualifier is its type without one, with the qualifier at
every declared type. -/
theorem synthesize_qualified (qualifier : Option String) (fallback : Fallback)
    (schema : Schema) :
    synthesize ⟨qualifier, fallback⟩ schema =
      (synthesize ⟨none, fallback⟩ schema).qualified qualifier := by
  induction schema with
  | nullable inner inductionHypothesis =>
      rw [synthesize, inductionHypothesis]
      rfl
  | reference target => rfl
  | oneOf alternatives inductionHypothesis =>
      rw [synthesize, synthesize, TypeExpr.qualified, TypeExpr.qualifiedEach_eq_map,
        synthesizeEach_eq_map, synthesizeEach_eq_map, List.map_map]
      exact congrArg TypeExpr.union (List.map_congr_left inductionHypothesis)
  | allOf members inductionHypothesis =>
      rw [synthesize, synthesize, TypeExpr.qualified, TypeExpr.qualifiedEach_eq_map,
        synthesizeEach_eq_map, synthesizeEach_eq_map, List.map_map]
      exact congrArg TypeExpr.intersection (List.map_congr_left inductionHypothesis)
  | primitive type format => cases type <;> rfl
  | enumeration values => exact (qualified_enumerationType qualifier values).symm
  | map values inductionHypothesis =>
      cases values with
      | none => rfl
      | some values => exact congrArg TypeExpr.record (inductionHypothesis values rfl)
  | object properties inductionHypothesis =>
      -- Both types have their members in the order of the names, which have no qualifiers.
      rw [synthesize, synthesize, TypeExpr.qualified, TypeExpr.qualifiedMembers_eq_map,
        synthesizeProperties_eq_map, synthesizeProperties_eq_map, Text.sortOn_map, Text.sortOn_map,
        List.map_map]
      refine congrArg TypeExpr.object (List.map_congr_left fun property listed => ?_)
      have declared := (Text.sortOn_perm _ properties).mem_iff.mp listed
      exact congrArg (MemberOf.mk _ _) (inductionHypothesis property declared)
  | array items inductionHypothesis =>
      cases items with
      | none => rfl
      | some items => exact congrArg TypeExpr.array (inductionHypothesis items rfl)
  | unknown => rfl

theorem typeText_eq_textBehind (qualifier : Option String) (fallback : Fallback)
    (schema : Schema) :
    typeText ⟨qualifier, fallback⟩ schema =
      textBehind (qualifierText qualifier) (synthesize ⟨none, fallback⟩ schema).stretches := by
  rw [typeText, synthesize_qualified, TypeExpr.text_qualified]

/-- The type of a schema under an alias is its type without one, with the alias and a dot in
front of the name of every declared type, wherever it stands.  All else is the same: the
members and their order, the keys, the literals and the fallback.  There is one such name for
each reference in the schema. -/
theorem qualification_uniform (fallback : Fallback) (schema : Schema) :
    Exists fun bare : TypeExpr =>
      synthesize ⟨none, fallback⟩ schema = bare ∧
      typeText ⟨none, fallback⟩ schema = textBehind "" bare.stretches ∧
      (namesIn bare.stretches).Perm (schema.references.map Pointer.targetName) ∧
      forall qualifier : String,
        synthesize ⟨some qualifier, fallback⟩ schema = bare.qualified (some qualifier) ∧
        typeText ⟨some qualifier, fallback⟩ schema =
          textBehind (qualifier ++ ".") bare.stretches := by
  refine ⟨synthesize ⟨none, fallback⟩ schema, rfl, typeText_eq_textBehind none fallback schema,
    ?_, fun qualifier => ⟨synthesize_qualified (some qualifier) fallback schema,
      typeText_eq_textBehind (some qualifier) fallback schema⟩⟩
  rw [TypeExpr.namesIn_stretches]
  have mentions := (mentioned_synthesize_perm ⟨none, fallback⟩ schema).map Prod.snd
  rwa [List.map_map] at mentions

end TypeScript
end OpenApiTypes
