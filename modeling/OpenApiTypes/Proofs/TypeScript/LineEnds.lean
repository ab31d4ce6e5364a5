import OpenApiTypes.Proofs.Naming.Quoted
import OpenApiTypes.Proofs.TypeScript.Parts
import OpenApiTypes.Proofs.TypeScript.RoundTrip

namespace OpenApiTypes

/-!
# Line ends in the type of a schema

What is written around names and values is on one line, and quoting leaves a line end as it
is.  So a line end stands in the text of a type exactly when it stands in what the schema
says: in a listed string, in the name of a property, or in a reference.
-/

/-- The character stands neither in a listed string nor in a property name nor in the name that
a reference is written as, directly in a schema. -/
def Schema.Lacks (context : TypeScript.TypeContext) (character : Char) : Schema -> Prop
  | .reference target =>
      (∀ outer ∈ context.qualifier, character ∉ outer.toList) ∧
        character ∉ (Pointer.targetName target).toList
  | .enumeration values =>
      forall value : String, Literal.string value ∈ values -> character ∉ value.toList
  | .object properties => ∀ property ∈ properties, character ∉ property.name.toList
  | _ => True

namespace TypeScript

/-- The character stands neither in a name nor in a string, directly in a type expression. -/
def TypeExpr.Lacks (character : Char) : TypeExpr -> Prop
  | .predefined name => character ∉ name.toList
  | .declared qualifier name =>
      (∀ outer ∈ qualifier, character ∉ outer.toList) ∧ character ∉ name.toList
  | .literal (.string value) => character ∉ value.toList
  | .object members => ∀ entry ∈ members, character ∉ entry.name.toList
  | _ => True

variable {character : Char}

theorem ne_of_isLineTerminator (ends : isLineTerminator character = true) {other : Char}
    (inside : isLineTerminator other = false) : character ≠ other := by
  rintro rfl
  rw [inside] at ends
  cases ends

theorem not_mem_of_staysOnLine (ends : isLineTerminator character = true) {text : String}
    (onLine : StaysOnLine text) : character ∉ text.toList :=
  fun member => ne_of_isLineTerminator ends (onLine character member) rfl

/-! ## Numerals -/

/-- No numeral goes on at the end of a line. -/
theorem NumeralPart.next?_of_isLineTerminator (ends : isLineTerminator character = true)
    (part : NumeralPart) : part.next? character = none := by
  simp only [isLineTerminator, Bool.or_eq_true, beq_iff_eq] at ends
  rcases ends with ((rfl | rfl) | rfl) | rfl <;> cases part <;> rfl

private theorem not_mem_of_after? (ends : isLineTerminator character = true)
    {characters : List Char} {part last : NumeralPart}
    (after : part.after? characters = some last) : character ∉ characters := by
  induction characters generalizing part with
  | nil => exact List.not_mem_nil
  | cons first rest inductionHypothesis =>
      rw [NumeralPart.after?, List.foldlM_cons, Option.bind_eq_bind,
        Option.bind_eq_some_iff] at after
      rcases after with ⟨next, leads, later⟩
      rw [List.mem_cons, not_or]
      refine ⟨?_, inductionHypothesis later⟩
      rintro rfl
      rw [NumeralPart.next?_of_isLineTerminator ends] at leads
      cases leads

private theorem not_mem_of_isNumeral (ends : isLineTerminator character = true) {text : String}
    (numeral : IsNumeral text) : character ∉ text.toList := by
  rcases numeral with ⟨last, reads, _⟩
  cases characters : text.toList with
  | nil => exact List.not_mem_nil
  | cons digit others =>
      rw [characters, numeralPart?, Option.mem_def, Option.ite_none_right_eq_some] at reads
      rcases reads with ⟨isDigit, after⟩
      rw [List.mem_cons, not_or]
      refine ⟨?_, not_mem_of_after? ends after⟩
      rintro rfl
      simp only [isLineTerminator, Bool.or_eq_true, beq_iff_eq] at ends
      rcases ends with ((rfl | rfl) | rfl) | rfl <;> cases isDigit

/-- A number is on one line. -/
theorem not_mem_number (ends : isLineTerminator character = true) (number : Json.Number) :
    character ∉ number.text.toList := by
  rcases isSignedNumeral_text number with ⟨digits, numeral, same | same⟩
  · rw [same]
    exact not_mem_of_isNumeral ends numeral
  · have sign : character ∉ "-".toList := not_mem_of_staysOnLine ends (by decide)
    rw [same, String.toList_append, List.mem_append, not_or]
    exact ⟨sign, not_mem_of_isNumeral ends numeral⟩

/-! ## Quoted texts -/

private theorem mem_escapeChar_iff (ends : isLineTerminator character = true) (other : Char) :
    character ∈ Naming.escapeChar other ↔ character = other := by
  have notBackslash : character ≠ '\\' := ne_of_isLineTerminator ends rfl
  unfold Naming.escapeChar
  split
  next backslash =>
    subst backslash
    simp [notBackslash]
  next =>
    split
    next quote =>
      subst quote
      simp [notBackslash]
    next => exact List.mem_singleton

/-- Quoting neither adds nor removes the end of a line. -/
theorem mem_singleQuoted_iff (ends : isLineTerminator character = true) (text : String) :
    character ∈ (Naming.singleQuoted text).toList ↔ character ∈ text.toList := by
  have notQuote : character ≠ '\'' := ne_of_isLineTerminator ends rfl
  rw [Naming.toList_singleQuoted, List.mem_cons, List.mem_append, List.mem_singleton,
    or_iff_right notQuote, or_iff_left notQuote, Naming.escapeChars, List.mem_flatMap]
  simp only [mem_escapeChar_iff ends, exists_eq_right']

theorem mem_propertyKey_iff (ends : isLineTerminator character = true) (name : String) :
    character ∈ (Naming.propertyKey name).toList ↔ character ∈ name.toList := by
  rw [Naming.propertyKey]
  split
  next => exact .rfl
  next => exact mem_singleQuoted_iff ends name

/-! ## Types -/

theorem mem_intercalate_iff {separator : String} (apart : character ∉ separator.toList)
    (texts : List String) :
    character ∈ (separator.intercalate texts).toList ↔ ∃ text ∈ texts, character ∈ text.toList := by
  cases texts with
  | nil => simp
  | cons first more =>
      rw [toList_intercalate_cons]
      simp [apart]

/-- What encloses a text on one line leaves the ends of lines to the text. -/
theorem mem_enclosed_iff (ends : isLineTerminator character = true) {opening closing : String}
    (opens : StaysOnLine opening) (closes : StaysOnLine closing) (text : String) :
    character ∈ (opening ++ text ++ closing).toList ↔ character ∈ text.toList := by
  rw [String.toList_append, String.toList_append, List.mem_append, List.mem_append,
    or_iff_left (not_mem_of_staysOnLine ends closes),
    or_iff_right (not_mem_of_staysOnLine ends opens)]

theorem mem_memberText_iff (ends : isLineTerminator character = true) (name : String)
    (deprecated : Bool) (value : String) :
    character ∈ (TypeExpr.memberText name deprecated value).toList ↔
      character ∈ name.toList ∨ character ∈ value.toList := by
  have mark : character ∉ (if deprecated then "/** @deprecated */ " else "").toList :=
    not_mem_of_staysOnLine ends (by cases deprecated <;> decide)
  have colon : character ∉ ": ".toList := not_mem_of_staysOnLine ends (by decide)
  have semicolon : character ∉ ";".toList := not_mem_of_staysOnLine ends (by decide)
  simp only [TypeExpr.memberText, String.toList_append, List.mem_append, mem_propertyKey_iff ends,
    mark, colon, semicolon, or_false, false_or]

theorem not_mem_declaredText_iff (ends : isLineTerminator character = true)
    (qualifier : Option String) (name : String) :
    character ∉ (TypeExpr.declaredText qualifier name).toList ↔
      (∀ outer ∈ qualifier, character ∉ outer.toList) ∧ character ∉ name.toList := by
  cases qualifier with
  | none => exact (and_iff_right nofun).symm
  | some outer =>
      have point : character ∉ ".".toList := not_mem_of_staysOnLine ends (by decide)
      simp only [TypeExpr.declaredText, String.toList_append, List.mem_append, point, or_false,
        not_or, Option.mem_some_iff, forall_eq']

/-- A line end in the text of a type expression stands in a name or a string of it, or in the
text of one of its parts. -/
private theorem not_mem_text_step (ends : isLineTerminator character = true)
    (expression : TypeExpr) :
    character ∉ expression.text.toList ↔
      expression.Lacks character ∧ ∀ child ∈ expression.children, character ∉ child.text.toList := by
  have joined {separator : String} (onLine : StaysOnLine separator) (texts : List String) :
      character ∉ (separator.intercalate texts).toList ↔
        ∀ text ∈ texts, character ∉ text.toList := by
    rw [mem_intercalate_iff (not_mem_of_staysOnLine ends onLine)]
    exact not_exists.trans (forall_congr' fun text => not_and)
  have combined {separator : String} (onLine : StaysOnLine separator)
      (members : List TypeExpr) :
      character ∉ ("(" ++ separator.intercalate (members.map TypeExpr.text) ++ ")").toList ↔
        ∀ child ∈ members, character ∉ child.text.toList := by
    rw [mem_enclosed_iff ends (by decide) (by decide), joined onLine, List.forall_mem_map]
  cases expression with
  | predefined name => exact (and_iff_left (List.forall_mem_nil _)).symm
  | declared qualifier name =>
      exact (not_mem_declaredText_iff ends qualifier name).trans (and_iff_left (List.forall_mem_nil _)).symm
  | literal value =>
      refine Iff.trans ?_ (and_iff_left (List.forall_mem_nil _)).symm
      cases value with
      | string value => exact not_congr (mem_singleQuoted_iff ends value)
      | number value => exact iff_of_true (not_mem_number ends value) trivial
      | boolean value =>
          refine iff_of_true (not_mem_of_staysOnLine ends ?_) trivial
          cases value <;> decide
      | null => exact iff_of_true (not_mem_of_staysOnLine ends (by decide)) trivial
  | union members =>
      rw [TypeExpr.text_union]
      exact (combined (by decide) members).trans (and_iff_right trivial).symm
  | intersection members =>
      rw [TypeExpr.text_intersection]
      exact (combined (by decide) members).trans (and_iff_right trivial).symm
  | record values =>
      have written : (TypeExpr.record values).text =
          "Record<string, " ++ values.text ++ ">" := rfl
      refine Iff.trans ?_ (and_iff_right trivial).symm
      rw [written, mem_enclosed_iff ends (by decide) (by decide), TypeExpr.children,
        List.forall_mem_singleton]
  | object members =>
      by_cases filled : members = []
      · subst filled
        exact iff_of_true (not_mem_of_staysOnLine ends (by decide)) ⟨List.forall_mem_nil _, List.forall_mem_nil _⟩
      · rw [TypeExpr.text_object filled, mem_enclosed_iff ends (by decide) (by decide),
          joined (by decide), List.forall_mem_map, TypeExpr.children, List.forall_mem_map]
        simp only [mem_memberText_iff ends, not_or, forall_and]
        exact .rfl
  | array items =>
      have suffix : character ∉ "[]".toList := not_mem_of_staysOnLine ends (by decide)
      have written : (TypeExpr.array items).text = items.text ++ "[]" := rfl
      refine Iff.trans ?_ (and_iff_right trivial).symm
      rw [written, String.toList_append, List.mem_append, or_iff_left suffix,
        TypeExpr.children, List.forall_mem_singleton]

/-- No line end stands in the text of a type expression exactly when none stands in the names and
strings in it. -/
theorem not_mem_text_iff (ends : isLineTerminator character = true) (expression : TypeExpr) :
    character ∉ expression.text.toList ↔ expression.Everywhere (TypeExpr.Lacks character) := by
  induction expression using TypeExpr.children_induct with
  | step expression inductionHypothesis =>
      rw [TypeExpr.everywhere_iff, ← forall₂_congr inductionHypothesis]
      exact not_mem_text_step ends expression

/-! ## Schemas -/

/-- What stands directly in the type of a schema stands directly in the schema. -/
private theorem lacks_synthesize_iff (ends : isLineTerminator character = true)
    (context : TypeContext) (schema : Schema) :
    ((synthesize context schema).Lacks character ∧
        ∀ leaf ∈ leaves schema, leaf.Lacks character) ↔ schema.Lacks context character := by
  have fixed {name : String} (onLine : StaysOnLine name) :
      (TypeExpr.predefined name).Lacks character := not_mem_of_staysOnLine ends onLine
  have unknown : ∀ leaf ∈ [TypeExpr.predefined "unknown"], leaf.Lacks character :=
    List.forall_mem_singleton.mpr (fixed (by decide))
  cases schema with
  | nullable inner =>
      exact iff_of_true ⟨trivial, List.forall_mem_singleton.mpr (fixed (by decide))⟩ trivial
  | reference target => exact and_iff_left (List.forall_mem_nil _)
  | primitive type format =>
      exact iff_of_true ⟨by cases type <;> exact fixed (by decide), List.forall_mem_nil _⟩ trivial
  | enumeration values =>
      have whole : (enumerationType values).Lacks character := by
        cases values with
        | nil => exact fixed (by decide)
        | cons first rest => trivial
      rw [leaves, List.forall_mem_map]
      refine (and_iff_right whole).trans ⟨fun each text listed => each _ listed, ?_⟩
      intro each value listed
      cases value with
      | string text => exact each text listed
      | number | boolean | null => trivial
  | map values =>
      cases values with
      | none => exact iff_of_true ⟨trivial, unknown⟩ trivial
      | some values => exact iff_of_true ⟨trivial, List.forall_mem_nil _⟩ trivial
  | object properties =>
      rw [synthesize, synthesizeProperties_eq_map]
      refine (and_iff_left (List.forall_mem_nil _)).trans ?_
      simp only [TypeExpr.Lacks, (Text.sortOn_perm MemberOf.name _).mem_iff, List.forall_mem_map]
      exact .rfl
  | array items =>
      cases items with
      | none => exact iff_of_true ⟨trivial, unknown⟩ trivial
      | some items => exact iff_of_true ⟨trivial, List.forall_mem_nil _⟩ trivial
  | unknown =>
      exact iff_of_true ⟨fixed (by cases context.fallback <;> decide), List.forall_mem_nil _⟩ trivial
  | oneOf alternatives => exact iff_of_true ⟨trivial, List.forall_mem_nil _⟩ trivial
  | allOf members => exact iff_of_true ⟨trivial, List.forall_mem_nil _⟩ trivial

/-- A line end stands in the text of the type of a schema exactly when it stands in a listed
string, in a property name or in a reference, at any depth. -/
theorem not_mem_typeText_iff (ends : isLineTerminator character = true) (context : TypeContext)
    (schema : Schema) :
    character ∉ (typeText context schema).toList ↔
      schema.Everywhere (Schema.Lacks context character) := by
  have pointwise : (fun part => (synthesize context part).Lacks character ∧
      ∀ leaf ∈ leaves part, leaf.Lacks character) = Schema.Lacks context character := by
    funext part
    exact propext (lacks_synthesize_iff ends context part)
  rw [typeText, not_mem_text_iff ends, everywhere_synthesize_iff, pointwise]

end TypeScript
end OpenApiTypes
