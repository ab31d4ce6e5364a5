import Mathlib.Data.List.Basic

namespace OpenApiTypes
namespace TypeScript

/-!
# The grammar of type expressions

A type expression is a row of tokens that derives a tree.  The suffix of arrays binds
tighter than `&`, and `&` binds tighter than `|`; parentheses leave no trace in the tree,
and an operator with one operand stands for that operand.  Which words are predefined and
which are declared is not a matter of the grammar, so `null` and `string` are names like
those of declared types.

The grammar is unambiguous: a row of tokens derives at most one tree.
-/

/-- A token.  A string stands for its value and a number for its digits as written. -/
inductive Token where
  | word (name : String)
  | string (value : String)
  | number (digits : String)
  | symbol (character : Char)
deriving DecidableEq

/-- The operators that combine types. -/
inductive Operator where
  | union
  | intersection

def Operator.symbol : Operator -> Char
  | .union => '|'
  | .intersection => '&'

/-- What a type expression says. -/
inductive TypeTree where
  /-- A declared or predefined type, or a literal that is a word. -/
  | name (qualifier : Option String) (name : String)
  | string (value : String)
  | number (text : String)
  | operation (operator : Operator) (operands : List TypeTree)
  | record (values : TypeTree)
  | object (members : List (String × TypeTree))
  | array (items : TypeTree)

namespace TypeTree

/-- The type that an operator makes of its operands; one operand stands for itself. -/
def combined (operator : Operator) : List TypeTree -> TypeTree
  | [only] => only
  | operands => .operation operator operands

/-- A type under several suffixes of arrays. -/
def arrays : Nat -> TypeTree -> TypeTree
  | 0, items => items
  | depth + 1, items => .array (arrays depth items)

end TypeTree

/-- How tightly the parts of a phrase hold together. -/
inductive Level where
  | primary
  | array
  | operation (operator : Operator)

/-- The level of the operands of an operator. -/
def Operator.operand : Operator -> Level
  | .union => .operation .intersection
  | .intersection => .array

/-- The level of a whole type expression. -/
abbrev Level.whole : Level := .operation .union

/-- A row of tokens with the tree that it derives. -/
structure Phrase where
  tokens : List Token
  tree : TypeTree

/-- The tokens of an operand after the first one. -/
def Phrase.after (operator : Operator) (phrase : Phrase) : List Token :=
  .symbol operator.symbol :: phrase.tokens

/-- A member of an object type, under a bare or a quoted key. -/
structure MemberPhrase where
  quoted : Bool
  name : String
  value : Phrase

namespace MemberPhrase

def key (member : MemberPhrase) : Token :=
  if member.quoted then .string member.name else .word member.name

theorem key_ne_symbol (member : MemberPhrase) (character : Char) :
    member.key ≠ .symbol character := by
  intro same
  rw [key] at same
  split at same <;> cases same

/-- The tokens of a member. -/
def tokens (member : MemberPhrase) : List Token :=
  member.key :: .symbol ':' :: (member.value.tokens ++ [.symbol ';'])

/-- The entry of a member in the tree. -/
def entry (member : MemberPhrase) : String × TypeTree :=
  (member.name, member.value.tree)

theorem eq_of_key_eq {member other : MemberPhrase} (key : member.key = other.key)
    (tokens : member.value.tokens = other.value.tokens)
    (tree : member.value.tree = other.value.tree) : member = other := by
  obtain ⟨quoted, name, ⟨tokens, tree⟩⟩ := member
  obtain ⟨otherQuoted, otherName, ⟨otherTokens, otherTree⟩⟩ := other
  cases quoted <;> cases otherQuoted <;> cases key <;> cases tokens <;> cases tree <;> rfl

end MemberPhrase

/-- The suffixes of arrays. -/
def brackets : Nat -> List Token
  | 0 => []
  | depth + 1 => .symbol '[' :: .symbol ']' :: brackets depth

/-- The grammar. -/
inductive Derives : Level -> List Token -> TypeTree -> Prop
  | name (name : String) : Derives .primary [.word name] (.name none name)
  | qualified (qualifier name : String) :
      Derives .primary [.word qualifier, .symbol '.', .word name] (.name (some qualifier) name)
  | string (value : String) : Derives .primary [.string value] (.string value)
  | number (digits : String) : Derives .primary [.number digits] (.number digits)
  | negative (digits : String) :
      Derives .primary [.symbol '-', .number digits] (.number ("-" ++ digits))
  | group {tokens : List Token} {tree : TypeTree} (inside : Derives .whole tokens tree) :
      Derives .primary (.symbol '(' :: (tokens ++ [.symbol ')'])) tree
  | record {tokens : List Token} {values : TypeTree} (inside : Derives .whole tokens values) :
      Derives .primary
        (.word "Record" :: .symbol '<' :: .word "string" :: .symbol ',' ::
          (tokens ++ [.symbol '>'])) (.record values)
  | object (members : List MemberPhrase)
      (inside : ∀ member ∈ members, Derives .whole member.value.tokens member.value.tree) :
      Derives .primary (.symbol '{' :: (members.flatMap MemberPhrase.tokens ++ [.symbol '}']))
        (.object (members.map MemberPhrase.entry))
  | array {tokens : List Token} {items : TypeTree} (depth : Nat)
      (inside : Derives .primary tokens items) :
      Derives .array (tokens ++ brackets depth) (.arrays depth items)
  | operation (operator : Operator) (first : Phrase) (more : List Phrase)
      (insideFirst : Derives operator.operand first.tokens first.tree)
      (insideMore : ∀ phrase ∈ more, Derives operator.operand phrase.tokens phrase.tree) :
      Derives (.operation operator) (first.tokens ++ more.flatMap (Phrase.after operator))
        (.combined operator (first.tree :: more.map Phrase.tree))

theorem brackets_append (depth : Nat) :
    brackets depth ++ [.symbol '[', .symbol ']'] = brackets (depth + 1) := by
  induction depth with
  | zero => rfl
  | succ depth inductionHypothesis =>
      rw [brackets, List.cons_append, List.cons_append, inductionHypothesis]
      rfl

/-- One more suffix makes an array of the whole. -/
theorem Derives.suffixed {tokens : List Token} {items : TypeTree}
    (derivation : Derives .array tokens items) :
    Derives .array (tokens ++ [.symbol '[', .symbol ']']) (.array items) := by
  cases derivation with
  | array depth inside =>
      rw [List.append_assoc, brackets_append]
      exact .array (depth + 1) inside

/-! ## Where a phrase ends -/

/-- The symbols that would carry a phrase of a level on. -/
def Level.continuing : Level -> List Char
  | .primary => ['.', '<']
  | .array => ['[', '.', '<']
  | .operation .intersection => ['&', '[', '.', '<']
  | .operation .union => ['|', '&', '[', '.', '<']

/-- What follows does not carry a phrase of the level on. -/
def Level.Stops (level : Level) (rest : List Token) : Prop :=
  ∀ character ∈ level.continuing, rest.head? ≠ some (.symbol character)

namespace Level

theorem stops_nil (level : Level) : level.Stops [] := by
  intro character _ same
  cases same

theorem stops_symbol {level : Level} {character : Char}
    (outside : character ∉ level.continuing) (rest : List Token) :
    level.Stops (.symbol character :: rest) := by
  intro other member same
  cases same
  exact outside member

theorem Stops.of_subset {tighter level : Level} {rest : List Token} (stops : level.Stops rest)
    (subset : tighter.continuing ⊆ level.continuing) : tighter.Stops rest :=
  fun character member => stops character (subset member)

end Level

namespace Operator

theorem symbol_not_mem_continuing_operand (operator : Operator) :
    operator.symbol ∉ operator.operand.continuing := by
  cases operator <;> decide

theorem continuing_operand_subset (operator : Operator) :
    operator.operand.continuing ⊆ (Level.operation operator).continuing := by
  cases operator <;> decide

theorem symbol_mem_continuing (operator : Operator) :
    operator.symbol ∈ (Level.operation operator).continuing := by
  cases operator <;> decide

end Operator

/-! ## Unambiguity -/

/-- Wherever the phrase stands, with something behind it that does not carry it on, no
other phrase of the level can be read from the same place. -/
def Determined (level : Level) (phrase : Phrase) : Prop :=
  forall (other : Phrase) (rest otherRest : List Token),
    Derives level other.tokens other.tree -> level.Stops rest -> level.Stops otherRest ->
      phrase.tokens ++ rest = other.tokens ++ otherRest -> phrase = other

/-- Behind an operand stands the operator or what is behind all operands. -/
private theorem stops_operands {operator : Operator} {rest : List Token}
    (stops : (Level.operation operator).Stops rest) (more : List Phrase) :
    operator.operand.Stops (more.flatMap (Phrase.after operator) ++ rest) := by
  cases more with
  | nil => exact stops.of_subset operator.continuing_operand_subset
  | cons next later =>
      exact Level.stops_symbol operator.symbol_not_mem_continuing_operand _

/-- Operands after the first one can be read in one way. -/
private theorem operands_unique {operator : Operator} {more others : List Phrase}
    {rest otherRest : List Token}
    (determined : ∀ phrase ∈ more, Determined operator.operand phrase)
    (derives : ∀ phrase ∈ others, Derives operator.operand phrase.tokens phrase.tree)
    (stops : (Level.operation operator).Stops rest)
    (otherStops : (Level.operation operator).Stops otherRest)
    (same : more.flatMap (Phrase.after operator) ++ rest =
      others.flatMap (Phrase.after operator) ++ otherRest) : more = others := by
  -- Where one list ends and the other goes on, the operator would stand behind the first.
  induction more generalizing others with
  | nil =>
      cases others with
      | nil => rfl
      | cons other later =>
          have starts : rest.head? = some (.symbol operator.symbol) := congrArg List.head? same
          exact absurd starts (stops _ operator.symbol_mem_continuing)
  | cons phrase more inductionHypothesis =>
      cases others with
      | nil =>
          have starts : otherRest.head? = some (.symbol operator.symbol) :=
            congrArg List.head? same.symm
          exact absurd starts (otherStops _ operator.symbol_mem_continuing)
      | cons other later =>
          rw [List.forall_mem_cons] at determined derives
          rw [List.flatMap_cons, List.flatMap_cons, List.append_assoc, List.append_assoc] at same
          have behind := (List.cons.inj same).2
          have equal := determined.1 other _ _ derives.1 (stops_operands stops more)
            (stops_operands otherStops later) behind
          subst equal
          rw [inductionHypothesis determined.2 derives.2 (List.append_cancel_left behind)]

/-- What stands in front of a symbol that closes it can be read in one way. -/
private theorem closed_unique {closing : Char} (outside : closing ∉ Level.whole.continuing)
    {tokens otherTokens rest otherRest : List Token} {tree otherTree : TypeTree}
    (determined : Determined .whole ⟨tokens, tree⟩)
    (derives : Derives .whole otherTokens otherTree)
    (same : tokens ++ .symbol closing :: rest = otherTokens ++ .symbol closing :: otherRest) :
    tokens = otherTokens ∧ tree = otherTree ∧ rest = otherRest := by
  have equal := determined ⟨otherTokens, otherTree⟩ _ _ derives
    (Level.stops_symbol outside rest) (Level.stops_symbol outside otherRest) same
  cases equal
  exact ⟨rfl, rfl, (List.cons.inj (List.append_cancel_left same)).2⟩

/-- Members in front of the brace that closes an object can be read in one way. -/
private theorem members_unique {members others : List MemberPhrase} {rest otherRest : List Token}
    (determined : ∀ member ∈ members, Determined .whole member.value)
    (derives : ∀ member ∈ others, Derives .whole member.value.tokens member.value.tree)
    (same : members.flatMap MemberPhrase.tokens ++ .symbol '}' :: rest =
      others.flatMap MemberPhrase.tokens ++ .symbol '}' :: otherRest) : members = others := by
  induction members generalizing others with
  | nil =>
      cases others with
      | nil => rfl
      | cons other later =>
          exact absurd (List.cons.inj same).1.symm (other.key_ne_symbol '}')
  | cons member members inductionHypothesis =>
      cases others with
      | nil =>
          exact absurd (List.cons.inj same).1 (member.key_ne_symbol '}')
      | cons other later =>
          rw [List.forall_mem_cons] at determined derives
          simp only [List.flatMap_cons, MemberPhrase.tokens, List.cons_append, List.append_assoc,
            List.nil_append, List.cons.injEq, true_and] at same
          obtain ⟨key, behind⟩ := same
          obtain ⟨valueTokens, valueTree, remaining⟩ :=
            closed_unique (by decide) determined.1 derives.1 behind
          rw [MemberPhrase.eq_of_key_eq key valueTokens valueTree,
            inductionHypothesis determined.2 derives.2 remaining]

private theorem brackets_unique {depth other : Nat} {rest otherRest : List Token}
    (stops : Level.array.Stops rest) (otherStops : Level.array.Stops otherRest)
    (same : brackets depth ++ rest = brackets other ++ otherRest) : depth = other := by
  induction depth generalizing other with
  | zero =>
      cases other with
      | zero => rfl
      | succ other =>
          have starts : rest.head? = some (.symbol '[') := congrArg List.head? same
          exact absurd starts (stops _ (by decide))
  | succ depth inductionHypothesis =>
      cases other with
      | zero =>
          have starts : otherRest.head? = some (.symbol '[') := congrArg List.head? same.symm
          exact absurd starts (otherStops _ (by decide))
      | succ other =>
          have behind := (List.cons.inj (List.cons.inj same).2).2
          rw [inductionHypothesis behind]

private theorem stops_brackets {rest : List Token} (stops : Level.array.Stops rest)
    (depth : Nat) : Level.primary.Stops (brackets depth ++ rest) := by
  cases depth with
  | zero => exact stops.of_subset (by decide)
  | succ depth => exact Level.stops_symbol (by decide) _

namespace Determined

/-! A word alone, a qualifier and a record begin alike, so for them the token behind the
word decides; the other primary phrases differ in their first token. -/

theorem name (name : String) : Determined .primary ⟨[.word name], .name none name⟩ := by
  rintro ⟨tokens, tree⟩ rest otherRest other stops _ same
  cases other with
  | name other => cases same; rfl
  | qualified qualifier name =>
      cases same
      exact absurd rfl (stops '.' (by decide))
  | record inside =>
      cases same
      exact absurd rfl (stops '<' (by decide))
  | string | number | negative | group | object => cases same

theorem qualified (qualifier name : String) :
    Determined .primary
      ⟨[.word qualifier, .symbol '.', .word name], .name (some qualifier) name⟩ := by
  rintro ⟨tokens, tree⟩ rest otherRest other _ otherStops same
  cases other with
  | name other =>
      cases same
      exact absurd rfl (otherStops '.' (by decide))
  | qualified qualifier name => cases same; rfl
  | string | number | negative | group | object | record => cases same

theorem string (value : String) : Determined .primary ⟨[.string value], .string value⟩ := by
  rintro ⟨tokens, tree⟩ rest otherRest other _ _ same
  cases other with
  | string other => cases same; rfl
  | name | qualified | number | negative | group | object | record => cases same

theorem number (digits : String) : Determined .primary ⟨[.number digits], .number digits⟩ := by
  rintro ⟨tokens, tree⟩ rest otherRest other _ _ same
  cases other with
  | number other => cases same; rfl
  | name | qualified | string | negative | group | object | record => cases same

theorem negative (digits : String) :
    Determined .primary ⟨[.symbol '-', .number digits], .number ("-" ++ digits)⟩ := by
  rintro ⟨tokens, tree⟩ rest otherRest other _ _ same
  cases other with
  | negative other => cases same; rfl
  | name | qualified | string | number | group | object | record => cases same

variable {tokens : List Token} {tree : TypeTree}

theorem group (inside : Determined .whole ⟨tokens, tree⟩) :
    Determined .primary ⟨.symbol '(' :: (tokens ++ [.symbol ')']), tree⟩ := by
  rintro ⟨tokens, tree⟩ rest otherRest other _ _ same
  cases other with
  | group otherInside =>
      simp only [List.cons_append, List.append_assoc, List.cons.injEq, true_and] at same
      obtain ⟨rfl, rfl, _⟩ := closed_unique (by decide) inside otherInside same
      rfl
  | name | qualified | string | number | negative | object | record => cases same

theorem record (inside : Determined .whole ⟨tokens, tree⟩) :
    Determined .primary
      ⟨.word "Record" :: .symbol '<' :: .word "string" :: .symbol ',' ::
        (tokens ++ [.symbol '>']), .record tree⟩ := by
  rintro ⟨tokens, tree⟩ rest otherRest other _ otherStops same
  cases other with
  | name other =>
      cases same
      exact absurd rfl (otherStops '<' (by decide))
  | record otherInside =>
      simp only [List.cons_append, List.append_assoc, List.cons.injEq, true_and] at same
      obtain ⟨rfl, rfl, _⟩ := closed_unique (by decide) inside otherInside same
      rfl
  | qualified | string | number | negative | group | object => cases same

theorem object {members : List MemberPhrase}
    (inside : ∀ member ∈ members, Determined .whole member.value) :
    Determined .primary
      ⟨.symbol '{' :: (members.flatMap MemberPhrase.tokens ++ [.symbol '}']),
        .object (members.map MemberPhrase.entry)⟩ := by
  rintro ⟨tokens, tree⟩ rest otherRest other _ _ same
  cases other with
  | object others otherInside =>
      simp only [List.cons_append, List.append_assoc, List.cons.injEq, true_and] at same
      have equal := members_unique inside otherInside same
      cases equal
      rfl
  | name | qualified | string | number | negative | group | record => cases same

theorem array (depth : Nat) (inside : Determined .primary ⟨tokens, tree⟩) :
    Determined .array ⟨tokens ++ brackets depth, .arrays depth tree⟩ := by
  rintro ⟨tokens, tree⟩ rest otherRest other stops otherStops same
  cases other with
  | array otherDepth otherInside =>
      simp only [List.append_eq, List.append_assoc] at same
      have equal := inside ⟨_, _⟩ _ _ otherInside (stops_brackets stops depth)
        (stops_brackets otherStops otherDepth) same
      cases equal
      have deep := brackets_unique stops otherStops (List.append_cancel_left same)
      cases deep
      rfl

theorem operation {operator : Operator} {first : Phrase} {more : List Phrase}
    (inside : Determined operator.operand first)
    (insideMore : ∀ phrase ∈ more, Determined operator.operand phrase) :
    Determined (.operation operator)
      ⟨first.tokens ++ more.flatMap (Phrase.after operator),
        .combined operator (first.tree :: more.map Phrase.tree)⟩ := by
  rintro ⟨tokens, tree⟩ rest otherRest other stops otherStops same
  cases other with
  | operation _ otherFirst others otherInside otherInsideMore =>
      simp only [List.append_eq, List.append_assoc] at same
      have equal := inside otherFirst _ _ otherInside
        (stops_operands stops more) (stops_operands otherStops others) same
      cases equal
      have behind := operands_unique insideMore otherInsideMore stops otherStops
        (List.append_cancel_left same)
      cases behind
      rfl

end Determined

/-- Every phrase can be read in one way. -/
theorem Derives.determined {level : Level} {tokens : List Token} {tree : TypeTree}
    (derivation : Derives level tokens tree) : Determined level ⟨tokens, tree⟩ := by
  induction derivation with
  | name name => exact .name name
  | qualified qualifier name => exact .qualified qualifier name
  | string value => exact .string value
  | number digits => exact .number digits
  | negative digits => exact .negative digits
  | group inside inductionHypothesis => exact .group inductionHypothesis
  | record inside inductionHypothesis => exact .record inductionHypothesis
  | object members inside inductionHypothesis => exact .object inductionHypothesis
  | array depth inside inductionHypothesis => exact .array depth inductionHypothesis
  | operation operator first more insideFirst insideMore firstHypothesis moreHypothesis =>
      exact .operation firstHypothesis moreHypothesis

/-- A row of tokens derives at most one tree. -/
theorem Derives.unique {level : Level} {tokens : List Token} {tree other : TypeTree}
    (derivation : Derives level tokens tree) (second : Derives level tokens other) :
    tree = other :=
  congrArg Phrase.tree
    (derivation.determined ⟨tokens, other⟩ [] [] second level.stops_nil level.stops_nil rfl)

end TypeScript
end OpenApiTypes
