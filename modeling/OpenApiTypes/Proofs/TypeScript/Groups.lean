import OpenApiTypes.Proofs.Schema.Sources
import OpenApiTypes.Proofs.TypeScript.Tokens

namespace OpenApiTypes

/-!
# Groups in the type of a schema

Unions and intersections are written in parentheses.  Parentheses with nothing between them
are no type, so a text with an empty group in it is no type expression, whatever stands around
the group.  Groups become empty in one way: a composition that decides the form of a schema
lists nothing.  An enumeration that lists nothing is written as a type without values, and
becomes no group.
-/

/-! ## Compositions and groups -/

namespace Schema

/-- A composition has a schema in it. -/
def ComposesSome : Schema -> Prop
  | .oneOf alternatives => alternatives ≠ []
  | .allOf members => members ≠ []
  | _ => True

/-- A reference names an identifier, and listed strings and property names are on one line. -/
def IsSpelled : Schema -> Prop
  | .reference target => Naming.isIdentifier (Pointer.targetName target)
  | .enumeration values =>
      forall value : String, Literal.string value ∈ values -> TypeScript.StaysOnLine value
  | .object properties => ∀ property ∈ properties, TypeScript.StaysOnLine property.name
  | _ => True

/-- A schema can be written when everything in it is spelled and every composition in it has a
schema in it. -/
theorem isWritable_of_everywhere {schema : Schema} (spelled : schema.Everywhere IsSpelled)
    (composed : schema.Everywhere ComposesSome) : schema.IsWritable := by
  induction schema using children_induct with
  | step schema inductionHypothesis =>
      rw [everywhere_iff] at spelled composed
      rcases spelled with ⟨spelledHere, spelledInside⟩
      rcases composed with ⟨composedHere, composedInside⟩
      have each : ∀ child ∈ schema.children, child.IsWritable := fun child inside =>
        inductionHypothesis child inside (spelledInside child inside) (composedInside child inside)
      cases schema with
      | nullable inner => exact .nullable (each inner (List.mem_singleton_self inner))
      | reference target => exact .reference spelledHere
      | oneOf alternatives => exact .oneOf composedHere each
      | allOf members => exact .allOf composedHere each
      | primitive type format => exact .primitive type format
      | enumeration values => exact .enumeration spelledHere
      | map values =>
          cases values with
          | none => exact .anyMap
          | some values => exact .map (each values (List.mem_singleton_self values))
      | object properties => exact .object spelledHere (List.forall_mem_map.mp each)
      | array items =>
          cases items with
          | none => exact .anyArray
          | some items => exact .array (each items (List.mem_singleton_self items))
      | unknown => exact .unknown

/-- The composition that decides the form of a schema object. -/
def Keywords.composition? (keywords : Keywords) : Option (List Schema) :=
  match keywords.reference with
  | some _ => none
  | none => keywords.oneOf <|> keywords.allOf <|> keywords.anyOf

private theorem Keywords.composesSome_typedForm (keywords : Keywords) (type : String) :
    (keywords.typedForm type).ComposesSome := by
  unfold typedForm
  split
  next => trivial
  next => split <;> trivial
  next =>
    split
    next => split <;> trivial
    next => split <;> trivial

/-- The form of a schema object is an empty composition exactly when the composition that
decides it is. -/
theorem Keywords.composesSome_form_iff (keywords : Keywords) (types : List String) :
    (keywords.form types).ComposesSome ↔ keywords.composition? ≠ some [] := by
  unfold form composition?
  split
  next target held =>
    rw [held]
    exact iff_of_true trivial nofun
  next alternatives absent held =>
    rw [absent, held]
    exact not_congr (Option.some_inj).symm
  next members absent absentOneOf held =>
    rw [absent, absentOneOf, held]
    exact not_congr (Option.some_inj).symm
  next alternatives absent absentOneOf absentAllOf held =>
    rw [absent, absentOneOf, absentAllOf, held]
    exact not_congr (Option.some_inj).symm
  next absent absentOneOf absentAllOf absentAnyOf =>
    rw [absent, absentOneOf, absentAllOf, absentAnyOf]
    refine iff_of_true ?_ nofun
    split
    next => split <;> trivial
    next => exact composesSome_typedForm keywords _
    next filled _ => exact fun empty => filled (List.map_eq_nil_iff.mp empty)

end Schema

namespace TypeScript

namespace TypeExpr

/-- A union or an intersection has a member. -/
def CombinesSome : TypeExpr -> Prop
  | .union members => members ≠ []
  | .intersection members => members ≠ []
  | _ => True

end TypeExpr

/-- The type of a composition has as many members as the composition. -/
private theorem combinesSome_synthesize_part_iff (context : TypeContext) (schema : Schema) :
    (synthesize context schema).CombinesSome ↔ schema.ComposesSome := by
  cases schema with
  | nullable inner => exact iff_of_true (List.cons_ne_nil _ _) trivial
  | oneOf alternatives =>
      rw [synthesize, synthesizeEach_eq_map]
      exact not_congr List.map_eq_nil_iff
  | allOf members =>
      rw [synthesize, synthesizeEach_eq_map]
      exact not_congr List.map_eq_nil_iff
  | primitive type format => cases type <;> exact .rfl
  | enumeration values =>
      cases values with
      | nil => exact .rfl
      | cons first rest => exact iff_of_true (List.cons_ne_nil _ _) trivial
  | map values => cases values <;> exact .rfl
  | array items => cases items <;> exact .rfl
  | reference | object | unknown => exact .rfl

/-- No group in the type of a schema is empty exactly when no composition in the schema is. -/
theorem combinesSome_synthesize_iff (context : TypeContext) (schema : Schema) :
    (synthesize context schema).Everywhere TypeExpr.CombinesSome ↔
      schema.Everywhere Schema.ComposesSome := by
  have pointwise : (fun part => (synthesize context part).CombinesSome ∧
      ∀ leaf ∈ leaves part, leaf.CombinesSome) = Schema.ComposesSome := by
    funext part
    rw [combinesSome_synthesize_part_iff]
    refine propext (and_iff_left ?_)
    intro leaf added
    rcases eq_of_mem_leaves added with rfl | rfl | ⟨_, _, value, _, rfl⟩
    · trivial
    · trivial
    · cases value <;> trivial
  rw [everywhere_synthesize_iff, pointwise]

/-- The type of a schema is spelled when everything in the schema is. -/
theorem isSpelled_synthesize {context : TypeContext}
    (qualified : ∀ name ∈ context.qualifier, Naming.isIdentifier name) {schema : Schema}
    (spelled : schema.Everywhere Schema.IsSpelled) :
    (synthesize context schema).Everywhere TypeExpr.IsSpelled := by
  rw [everywhere_synthesize_iff]
  intro part inside
  have here := spelled part inside
  constructor
  · cases part with
    | reference target => exact ⟨qualified, here⟩
    | primitive type format => cases type <;> rfl
    | enumeration values =>
        cases values with
        | nil => rfl
        | cons first rest => trivial
    | map values => cases values <;> trivial
    | object properties =>
        rw [synthesize, synthesizeProperties_eq_map]
        intro entry member
        rw [(Text.sortOn_perm MemberOf.name _).mem_iff, List.mem_map] at member
        rcases member with ⟨property, declared, rfl⟩
        exact here property declared
    | array items => cases items <;> trivial
    | unknown =>
        have identifier : Naming.isIdentifier context.fallback.text := by
          cases context.fallback <;> rfl
        exact identifier
    | nullable | oneOf | allOf => trivial
  · intro leaf added
    rcases eq_of_mem_leaves added with rfl | rfl | ⟨values, rfl, value, listed, rfl⟩
    · rfl
    · rfl
    · cases value with
      | string text => exact here text listed
      | number | boolean | null => trivial

/-! ## Rows with an empty group -/

/-- A parenthesis is closed right behind where it is opened. -/
def HasEmptyGroup (tokens : List Token) : Prop :=
  [.symbol '(', .symbol ')'] <:+: tokens

/-- Behind every opening parenthesis stands something else than a closing one. -/
def GroupsFilled : List Token -> Prop
  | [] => True
  | token :: rest =>
      (token = .symbol '(' -> ∃ next ∈ rest.head?, next ≠ .symbol ')') ∧ GroupsFilled rest

namespace GroupsFilled

theorem append {first second : List Token} (filled : GroupsFilled first)
    (filledToo : GroupsFilled second) : GroupsFilled (first ++ second) := by
  induction first with
  | nil => exact filledToo
  | cons token rest inductionHypothesis =>
      refine ⟨fun opening => ?_, inductionHypothesis filled.2⟩
      rcases filled.1 opening with ⟨next, follows, different⟩
      exact ⟨next, List.mem_head?_append_of_mem_head? follows, different⟩

theorem of_not_mem {tokens : List Token} (absent : .symbol '(' ∉ tokens) :
    GroupsFilled tokens := by
  induction tokens with
  | nil => trivial
  | cons token rest inductionHypothesis =>
      rw [List.mem_cons, not_or] at absent
      exact ⟨fun opening => absurd opening.symm absent.1, inductionHypothesis absent.2⟩

theorem cons {token : Token} (different : token ≠ .symbol '(') {rest : List Token}
    (filled : GroupsFilled rest) : GroupsFilled (token :: rest) :=
  ⟨fun same => absurd same different, filled⟩

/-- What closes a row is no opening parenthesis. -/
theorem closed {tokens : List Token} (filled : GroupsFilled tokens) {closing : Char}
    (different : closing ≠ '(') : GroupsFilled (tokens ++ [.symbol closing]) := by
  refine filled.append (of_not_mem ?_)
  rw [List.mem_singleton, Token.symbol.injEq]
  exact different.symm

theorem flatMap {Part : Type} {parts : List Part} {row : Part -> List Token}
    (each : ∀ part ∈ parts, GroupsFilled (row part)) : GroupsFilled (parts.flatMap row) := by
  induction parts with
  | nil => trivial
  | cons part parts inductionHypothesis =>
      rw [List.forall_mem_cons] at each
      exact each.1.append (inductionHypothesis each.2)

theorem not_hasEmptyGroup {tokens : List Token} (filled : GroupsFilled tokens) :
    ¬HasEmptyGroup tokens := by
  rintro ⟨before, behind, rfl⟩
  induction before with
  | nil =>
      rcases filled.1 rfl with ⟨next, follows, different⟩
      cases follows
      exact different rfl
  | cons token before inductionHypothesis => exact inductionHypothesis filled.2

end GroupsFilled

/-- No phrase begins where a group is closed. -/
private theorem exists_head_of_derives {level : Level} {tokens : List Token} {tree : TypeTree}
    (derivation : Derives level tokens tree) :
    ∃ first ∈ tokens.head?, first ≠ .symbol ')' := by
  induction derivation with
  | name name => exact ⟨_, rfl, nofun⟩
  | qualified qualifier name => exact ⟨_, rfl, nofun⟩
  | string value => exact ⟨_, rfl, nofun⟩
  | number digits => exact ⟨_, rfl, nofun⟩
  | negative digits => exact ⟨_, rfl, by decide⟩
  | group inside inductionHypothesis => exact ⟨_, rfl, by decide⟩
  | record inside inductionHypothesis => exact ⟨_, rfl, nofun⟩
  | object members inside inductionHypothesis => exact ⟨_, rfl, by decide⟩
  | array depth inside inductionHypothesis =>
      rcases inductionHypothesis with ⟨first, starts, different⟩
      exact ⟨first, List.mem_head?_append_of_mem_head? starts, different⟩
  | operation operator first more insideFirst insideMore firstHypothesis moreHypothesis =>
      rcases firstHypothesis with ⟨first, starts, different⟩
      exact ⟨first, List.mem_head?_append_of_mem_head? starts, different⟩

/-- In a phrase something stands between every two parentheses. -/
theorem groupsFilled_of_derives {level : Level} {tokens : List Token} {tree : TypeTree}
    (derivation : Derives level tokens tree) : GroupsFilled tokens := by
  induction derivation with
  | name name => exact .of_not_mem (by simp)
  | qualified qualifier name => exact .of_not_mem (by simp)
  | string value => exact .of_not_mem (by simp)
  | number digits => exact .of_not_mem (by simp)
  | negative digits => exact .of_not_mem (by simp)
  | group inside inductionHypothesis =>
      rcases exists_head_of_derives inside with ⟨first, starts, different⟩
      refine ⟨fun _ => ⟨first, List.mem_head?_append_of_mem_head? starts, different⟩, ?_⟩
      exact inductionHypothesis.closed (by decide)
  | record inside inductionHypothesis =>
      have opening : GroupsFilled [.word "Record", .symbol '<', .word "string", .symbol ','] :=
        .of_not_mem (by decide)
      exact opening.append (inductionHypothesis.closed (by decide))
  | object members inside inductionHypothesis =>
      have each : ∀ member ∈ members, GroupsFilled member.tokens := by
        intro member listed
        have value := (inductionHypothesis member listed).closed (by decide : ';' ≠ '(')
        exact .cons (member.key_ne_symbol '(') (.cons (by decide) value)
      exact .cons (by decide) ((GroupsFilled.flatMap each).closed (by decide))
  | array depth inside inductionHypothesis =>
      refine inductionHypothesis.append ?_
      induction depth with
      | zero => trivial
      | succ depth suffixes => exact .cons (by decide) (.cons (by decide) suffixes)
  | operation operator first more insideFirst insideMore firstHypothesis moreHypothesis =>
      refine firstHypothesis.append (GroupsFilled.flatMap ?_)
      intro phrase listed
      refine .cons ?_ (moreHypothesis phrase listed)
      cases operator <;> decide

/-! ## Rows of type expressions -/

private theorem infix_flatMap {Part : Type} {parts : List Part} {part : Part}
    (listed : part ∈ parts) (row : Part -> List Token) : row part <:+: parts.flatMap row := by
  rcases List.append_of_mem listed with ⟨before, behind, rfl⟩
  rw [List.flatMap_append, List.flatMap_cons]
  exact List.infix_append' _ _ _

private theorem infix_separated {symbol : Char} {rows : List (List Token)} {row : List Token}
    (listed : row ∈ rows) : row <:+: separated symbol rows := by
  cases rows with
  | nil => cases listed
  | cons first more =>
      rcases List.mem_cons.mp listed with rfl | later
      · exact (List.prefix_append row _).isInfix
      · have behind : .symbol symbol :: row <:+: more.flatMap (.symbol symbol :: ·) :=
          infix_flatMap later (.symbol symbol :: ·)
        have operand : row <:+: .symbol symbol :: row := (List.suffix_cons _ row).isInfix
        exact (operand.trans behind).trans (List.suffix_append first _).isInfix

private theorem infix_enclosed (opening closing : Token) (row : List Token) :
    row <:+: opening :: (row ++ [closing]) :=
  List.infix_cons (List.prefix_append row _).isInfix

/-- The row of a part stands in the row of the whole. -/
theorem infix_tokens {expression child : TypeExpr} (inside : child ∈ expression.children) :
    child.tokens <:+: expression.tokens := by
  cases expression with
  | union members =>
      rw [TypeExpr.tokens, TypeExpr.tokensOfEach_eq_map]
      exact (infix_separated (List.mem_map_of_mem inside)).trans (infix_enclosed _ _ _)
  | intersection members =>
      rw [TypeExpr.tokens, TypeExpr.tokensOfEach_eq_map]
      exact (infix_separated (List.mem_map_of_mem inside)).trans (infix_enclosed _ _ _)
  | record values =>
      cases List.mem_singleton.mp inside
      let opening : List Token := [.word "Record", .symbol '<', .word "string"]
      exact (infix_enclosed (.symbol ',') (.symbol '>') _).trans
        (List.suffix_append opening _).isInfix
  | object members =>
      rcases List.mem_map.mp inside with ⟨entry, listed, rfl⟩
      rw [TypeExpr.tokens, TypeExpr.tokensOfMembers_eq_flatMap]
      have member : entry.type.tokens <:+: memberRow entry.name entry.type.tokens :=
        List.infix_cons (infix_enclosed (.symbol ':') (.symbol ';') _)
      have among : memberRow entry.name entry.type.tokens <:+:
          members.flatMap (fun entry => memberRow entry.name entry.type.tokens) :=
        infix_flatMap listed (fun entry => memberRow entry.name entry.type.tokens)
      exact (member.trans among).trans (infix_enclosed _ _ _)
  | array items =>
      cases List.mem_singleton.mp inside
      exact (List.prefix_append _ _).isInfix
  | predefined | declared | literal => cases inside

/-- A type expression with a group that has no member in it has an empty group in its row. -/
theorem hasEmptyGroup_tokens {expression : TypeExpr}
    (empty : ¬expression.Everywhere TypeExpr.CombinesSome) : HasEmptyGroup expression.tokens := by
  induction expression using TypeExpr.children_induct with
  | step expression inductionHypothesis =>
      rw [TypeExpr.everywhere_iff, not_and_or] at empty
      rcases empty with here | below
      · cases expression with
        | union members =>
            cases not_not.mp here
            exact List.infix_rfl
        | intersection members =>
            cases not_not.mp here
            exact List.infix_rfl
        | predefined | declared | literal | record | object | array => exact absurd trivial here
      · simp only [not_forall] at below
        rcases below with ⟨child, inside, empty⟩
        exact (inductionHypothesis child inside empty).trans (infix_tokens inside)

/-! ## Types as texts -/

section Texts

variable {context : TypeContext} {schema : Schema}
  (qualified : ∀ name ∈ context.qualifier, Naming.isIdentifier name)
  (spelled : schema.Everywhere Schema.IsSpelled)

include qualified spelled

/-- The text of the type of a spelled schema is the row of the type. -/
theorem tokens?_typeText :
    tokens? (typeText context schema) = some (synthesize context schema).tokens :=
  (lexes_text (isSpelled_synthesize qualified spelled)).tokens?_eq

/-- The text is a type expression unless a composition in the schema is empty. -/
theorem parses_typeText_iff_composesSome :
    (Exists fun tree : TypeTree => Parses (typeText context schema) tree) ↔
      schema.Everywhere Schema.ComposesSome := by
  constructor
  · rintro ⟨tree, tokens, lexed, derives⟩
    rw [tokens?_typeText qualified spelled, Option.some.injEq] at lexed
    subst lexed
    rw [← combinesSome_synthesize_iff context]
    exact not_not.mp fun empty =>
      (groupsFilled_of_derives derives).not_hasEmptyGroup (hasEmptyGroup_tokens empty)
  · intro composed
    have writable := Schema.isWritable_of_everywhere spelled composed
    exact ⟨_, (parses_typeText_iff context qualified writable _).mpr rfl⟩

/-- The text has an empty group in it exactly when a composition in the schema is empty. -/
theorem hasEmptyGroup_tokens_iff :
    HasEmptyGroup (synthesize context schema).tokens ↔
      ¬schema.Everywhere Schema.ComposesSome := by
  constructor
  · intro empty composed
    rcases (parses_typeText_iff_composesSome qualified spelled).mpr composed with
      ⟨tree, tokens, lexed, derives⟩
    rw [tokens?_typeText qualified spelled, Option.some.injEq] at lexed
    subst lexed
    exact (groupsFilled_of_derives derives).not_hasEmptyGroup empty
  · intro empty
    rw [← combinesSome_synthesize_iff context] at empty
    exact hasEmptyGroup_tokens empty

end Texts

/-- The groups in the type of a schema are all filled exactly when the compositions in the
schema are, at every depth, and then only is a spelled type a type expression: otherwise its
row has an empty group in it.  The form of a schema object is an empty composition when the
first of its composition keywords lists nothing, and no reference is set against it. -/
theorem groups_filled_iff (context : TypeContext) (schema : Schema) :
    ((synthesize context schema).Everywhere TypeExpr.CombinesSome ↔
        schema.Everywhere Schema.ComposesSome) ∧
      ((∀ name ∈ context.qualifier, Naming.isIdentifier name) ->
        schema.Everywhere Schema.IsSpelled ->
          tokens? (typeText context schema) = some (synthesize context schema).tokens ∧
            (HasEmptyGroup (synthesize context schema).tokens ↔
              ¬schema.Everywhere Schema.ComposesSome) ∧
            ((Exists fun tree : TypeTree => Parses (typeText context schema) tree) ↔
              schema.Everywhere Schema.ComposesSome)) ∧
      forall (keywords : Schema.Keywords) (types : List String),
        (keywords.form types).ComposesSome ↔ keywords.composition? ≠ some [] := by
  refine ⟨combinesSome_synthesize_iff context schema, ?_, Schema.Keywords.composesSome_form_iff⟩
  intro qualified spelled
  exact ⟨tokens?_typeText qualified spelled, hasEmptyGroup_tokens_iff qualified spelled,
    parses_typeText_iff_composesSome qualified spelled⟩

/-- A list of an empty intersection. -/
theorem groups_filled_emptyItems :
    tokens? "()[]" = some [.symbol '(', .symbol ')', .symbol '[', .symbol ']'] ∧
      ¬Exists fun tree : TypeTree => Parses "()[]" tree := by
  have inside : Schema.Everywhere Schema.IsSpelled (.allOf []) :=
    (Schema.everywhere_iff ..).mpr ⟨trivial, nofun⟩
  have spelled : Schema.Everywhere Schema.IsSpelled (.array (some (.allOf []))) :=
    (Schema.everywhere_iff ..).mpr ⟨trivial, List.forall_mem_singleton.mpr inside⟩
  have empty : ¬Schema.Everywhere Schema.ComposesSome (.array (some (.allOf []))) :=
    fun composed => composed (.allOf []) (.single (List.mem_singleton_self _)) rfl
  rcases (groups_filled_iff ⟨none, .unknown⟩ (.array (some (.allOf [])))).2.1 nofun spelled with
    ⟨lexed, _, parses⟩
  exact ⟨lexed, fun tree => empty (parses.mp tree)⟩

/-- A schema object whose `oneOf` lists nothing is written as an empty group.  An enumeration
that lists nothing is a type. -/
theorem typeText_emptyOneOf :
    (Schema.read (.object [("oneOf", .array [])])).map (typeText ⟨none, .unknown⟩) = .ok "()" ∧
      (Schema.read (.object [("enum", .array [])])).map (typeText ⟨none, .unknown⟩) =
        .ok "never" ∧
      ¬(Exists fun tree : TypeTree => Parses "()" tree) ∧
      Exists fun tree : TypeTree => Parses "never" tree := by
  refine ⟨rfl, rfl, ?_, ⟨.name none "never", ?_⟩⟩
  · rintro ⟨tree, tokens, lexed, derives⟩
    have row : tokens? "()" = some [.symbol '(', .symbol ')'] := by decide
    cases row.symm.trans lexed
    exact (groupsFilled_of_derives derives).not_hasEmptyGroup List.infix_rfl
  · have never : Reads "never" .primary (.name none "never") := Reads.name rfl
    exact never.array_of_primary.whole_of_array.parses

end TypeScript
end OpenApiTypes
