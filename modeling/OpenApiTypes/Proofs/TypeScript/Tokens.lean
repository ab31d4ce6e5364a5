import OpenApiTypes.Proofs.TypeScript.Parts
import OpenApiTypes.Proofs.TypeScript.RoundTrip

namespace OpenApiTypes
namespace TypeScript

/-!
# The tokens of a type expression

A type expression is written as a row of tokens, in which the rows of its parts stand.  Which
tokens these are depends on the expression alone, and not on whether the row makes sense: a
union without members has a row too.  Names and listed strings have to be spelled so that
each of them is one token.
-/

/-- The tokens of a numeral with its sign. -/
def numberTokens (text : String) : List Token :=
  match text.toList with
  | '-' :: digits => [.symbol '-', .number (String.ofList digits)]
  | _ => [.number text]

/-- The tokens of a literal type. -/
def LiteralType.tokens : LiteralType -> List Token
  | .string value => [.string value]
  | .number value => numberTokens value.text
  | .boolean value => [.word (if value then "true" else "false")]
  | .null => [.word "null"]

namespace TypeExpr

/-- The tokens of a declared type. -/
def declaredTokens : Option String -> String -> List Token
  | some qualifier, name => [.word qualifier, .symbol '.', .word name]
  | none, name => [.word name]

mutual

/-- The tokens of a type expression. -/
def tokens (expression : TypeExpr) : List Token :=
  match expression with
  | .predefined name => [.word name]
  | .declared qualifier name => declaredTokens qualifier name
  | .literal value => value.tokens
  | .union members => .symbol '(' :: (separated '|' (tokensOfEach members) ++ [.symbol ')'])
  | .intersection members =>
      .symbol '(' :: (separated '&' (tokensOfEach members) ++ [.symbol ')'])
  | .record values =>
      .word "Record" :: .symbol '<' :: .word "string" :: .symbol ',' ::
        (tokens values ++ [.symbol '>'])
  | .object members => .symbol '{' :: (tokensOfMembers members ++ [.symbol '}'])
  | .array items => tokens items ++ [.symbol '[', .symbol ']']
termination_by structural expression

/-- The tokens of several type expressions. -/
def tokensOfEach (expressions : List TypeExpr) : List (List Token) :=
  match expressions with
  | [] => []
  | first :: rest => tokens first :: tokensOfEach rest
termination_by structural expressions

/-- The tokens of the members of an object type. -/
def tokensOfMembers (members : List (MemberOf TypeExpr)) : List Token :=
  match members with
  | [] => []
  | ⟨name, _, type⟩ :: rest => memberRow name (tokens type) ++ tokensOfMembers rest
termination_by structural members

end

theorem tokensOfEach_eq_map (expressions : List TypeExpr) :
    tokensOfEach expressions = expressions.map tokens := by
  induction expressions with
  | nil => rfl
  | cons first rest inductionHypothesis =>
      rw [tokensOfEach, inductionHypothesis, List.map_cons]

theorem tokensOfMembers_eq_flatMap (members : List Member) :
    tokensOfMembers members =
      members.flatMap (fun entry => memberRow entry.name entry.type.tokens) := by
  induction members with
  | nil => rfl
  | cons first rest inductionHypothesis =>
      rw [tokensOfMembers, inductionHypothesis, List.flatMap_cons]

/-- The names that stand directly in a type expression are identifiers, and its strings are
on one line. -/
def IsSpelled : TypeExpr -> Prop
  | .predefined name => Naming.isIdentifier name
  | .declared qualifier name =>
      (∀ outer ∈ qualifier, Naming.isIdentifier outer) ∧ Naming.isIdentifier name
  | .literal (.string value) => StaysOnLine value
  | .object members => ∀ entry ∈ members, StaysOnLine entry.name
  | _ => True

end TypeExpr

/-! ## Texts as rows -/

private theorem lexes_number (number : Json.Number) :
    Lexes number.text.toList (numberTokens number.text) := by
  rcases isSignedNumeral_text number with ⟨digits, numeral, same | same⟩
  · rw [← same] at numeral
    have unsigned : numberTokens number.text = [.number number.text] := by
      unfold numberTokens
      split
      next later written =>
        -- No numeral begins with a sign.
        rcases numeral with ⟨part, read, _⟩
        rw [written] at read
        cases read
      next => rfl
    rw [unsigned]
    exact Lexes.numeral numeral
  · have signed : numberTokens ("-" ++ digits) = [.symbol '-', .number digits] := by
      have minus : "-".toList = ['-'] := rfl
      rw [numberTokens, String.toList_append, minus]
      change [Token.symbol '-', .number (String.ofList digits.toList)] = _
      rw [String.ofList_toList]
    rw [same, signed]
    exact Lexes.negative numeral

theorem lexes_literal {value : LiteralType} (spelled : (TypeExpr.literal value).IsSpelled) :
    Lexes value.text.toList value.tokens := by
  cases value with
  | string value => exact Lexes.singleQuoted spelled
  | number value => exact lexes_number value
  | boolean value => cases value <;> exact Lexes.identifier rfl
  | null => exact Lexes.identifier rfl

private theorem lexes_combined (operator : Operator) {members : List TypeExpr}
    (each : ∀ expression ∈ members, Lexes expression.text.toList expression.tokens) :
    Lexes ("(" ++ operator.separator.intercalate (members.map TypeExpr.text) ++ ")").toList
      (.symbol '(' ::
        (separated operator.symbol (TypeExpr.tokensOfEach members) ++ [.symbol ')'])) := by
  rw [TypeExpr.tokensOfEach_eq_map]
  exact (Lexes.separated each).group

/-- The text of a type expression is the row of its tokens, wherever it stands. -/
theorem lexes_text {expression : TypeExpr} (spelled : expression.Everywhere TypeExpr.IsSpelled) :
    Lexes expression.text.toList expression.tokens := by
  induction expression with
  | predefined name =>
      have identifier : Naming.isIdentifier name := ((TypeExpr.everywhere_iff ..).mp spelled).1
      exact Lexes.identifier identifier
  | declared qualifier name =>
      rcases ((TypeExpr.everywhere_iff ..).mp spelled).1 with ⟨qualified, identifier⟩
      cases qualifier with
      | none => exact Lexes.identifier identifier
      | some outer => exact Lexes.qualified (qualified outer rfl) identifier
  | literal value => exact lexes_literal ((TypeExpr.everywhere_iff ..).mp spelled).1
  | union members inductionHypothesis =>
      rcases (TypeExpr.everywhere_iff ..).mp spelled with ⟨_, inside⟩
      rw [TypeExpr.text_union]
      exact lexes_combined .union
        (fun part member => inductionHypothesis part member (inside part member))
  | intersection members inductionHypothesis =>
      rcases (TypeExpr.everywhere_iff ..).mp spelled with ⟨_, inside⟩
      rw [TypeExpr.text_intersection]
      exact lexes_combined .intersection
        (fun part member => inductionHypothesis part member (inside part member))
  | record values inductionHypothesis =>
      rcases (TypeExpr.everywhere_iff ..).mp spelled with ⟨_, inside⟩
      exact (inductionHypothesis (inside values (List.mem_singleton_self values))).record
  | object members inductionHypothesis =>
      rcases (TypeExpr.everywhere_iff ..).mp spelled with ⟨names, inside⟩
      rw [TypeExpr.tokens, TypeExpr.tokensOfMembers_eq_flatMap]
      by_cases filled : members = []
      · subst filled
        exact Lexes.emptyObject
      · rw [TypeExpr.text_object filled]
        refine Lexes.object filled _ ?_
        intro entry member
        exact ⟨names entry member, inductionHypothesis entry member
          (inside entry.type (List.mem_map_of_mem member))⟩
  | array items inductionHypothesis =>
      rcases (TypeExpr.everywhere_iff ..).mp spelled with ⟨_, inside⟩
      exact (inductionHypothesis (inside items (List.mem_singleton_self items))).suffixed

end TypeScript
end OpenApiTypes
