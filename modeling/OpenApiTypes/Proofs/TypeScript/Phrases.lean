import OpenApiTypes.Proofs.TypeScript.Lexing
import OpenApiTypes.TypeScript.Expr

namespace OpenApiTypes
namespace TypeScript

/-!
# Texts that are phrases

A text is a phrase of a level when it can be cut into tokens that derive a tree there,
wherever it stands in front of a boundary.  Each way of putting a type expression together
makes a phrase out of phrases.
-/

/-- The tree of a whole text. -/
def Parses (text : String) (tree : TypeTree) : Prop :=
  Exists fun tokens : List Token => tokens? text = some tokens ∧ Derives .whole tokens tree

/-- A text has at most one tree. -/
theorem Parses.unique {text : String} {tree other : TypeTree} (first : Parses text tree)
    (second : Parses text other) : tree = other := by
  rcases first with ⟨tokens, lexed, derives⟩
  rcases second with ⟨_, otherLexed, otherDerives⟩
  cases lexed.symm.trans otherLexed
  exact derives.unique otherDerives

/-! ## Characters that are tokens -/

/-- The characters are the tokens wherever they stand in front of a boundary. -/
def Lexes (characters : List Char) (tokens : List Token) : Prop :=
  forall rest : List Char, Bounded rest ->
    LexState.between.run (characters ++ rest) =
      (LexState.between.run rest).map (tokens ++ ·)

theorem Bounded.cons {character : Char} (boundary : isBoundary character = true)
    (rest : List Char) : Bounded (character :: rest) := by
  intro first same
  cases same
  exact boundary

theorem Bounded.ends {rest : List Char} (bounded : Bounded rest) :
    ∀ character ∈ rest.head?, Naming.continuesIdentifier character = false := by
  intro character head
  have boundary := bounded character head
  rw [isBoundary, Bool.and_eq_true, Bool.not_eq_true'] at boundary
  exact boundary.1

namespace Lexes

theorem nil : Lexes [] [] := by
  intro rest _
  exact Option.map_id'.symm

theorem symbol {character : Char} (member : character ∈ symbols) {characters : List Char}
    {tokens : List Token} (lexes : Lexes characters tokens) :
    Lexes (character :: characters) (.symbol character :: tokens) := by
  intro rest bounded
  rw [List.cons_append, LexState.run_symbol member, lexes rest bounded, Option.map_map]
  rfl

theorem space {characters : List Char} {tokens : List Token} (lexes : Lexes characters tokens) :
    Lexes (' ' :: characters) tokens := by
  intro rest bounded
  rw [List.cons_append, LexState.run_space, lexes rest bounded]

theorem append {first second : List Char} {tokens more : List Token} (lexes : Lexes first tokens)
    (lexesMore : Lexes second more)
    (bounded : forall rest : List Char, Bounded rest -> Bounded (second ++ rest)) :
    Lexes (first ++ second) (tokens ++ more) := by
  intro rest boundedRest
  rw [List.append_assoc, lexes _ (bounded rest boundedRest), lexesMore rest boundedRest,
    Option.map_map]
  refine congrArg (Option.map · _) (funext fun remaining => ?_)
  exact (List.append_assoc tokens more remaining).symm

/-- A boundary character may follow any phrase. -/
theorem append_cons {first second : List Char} {character : Char} {tokens more : List Token}
    (lexes : Lexes first tokens) (boundary : isBoundary character = true)
    (lexesMore : Lexes (character :: second) more) :
    Lexes (first ++ character :: second) (tokens ++ more) :=
  lexes.append lexesMore (fun _ _ => Bounded.cons boundary _)

/-- A symbol may close any phrase that it does not carry on. -/
theorem closed {characters : List Char} {closing : Char} {tokens : List Token}
    (lexes : Lexes characters tokens) (member : closing ∈ symbols)
    (boundary : isBoundary closing = true) :
    Lexes (characters ++ [closing]) (tokens ++ [.symbol closing]) :=
  lexes.append_cons boundary (Lexes.nil.symbol member)

theorem identifier {name : String} (identifier : Naming.isIdentifier name) :
    Lexes name.toList [.word name] :=
  fun _ bounded => LexState.run_identifier identifier bounded.ends

theorem singleQuoted {value : String} (onLine : StaysOnLine value) :
    Lexes (Naming.singleQuoted value).toList [.string value] :=
  fun rest _ => LexState.run_singleQuoted onLine rest

theorem numeral {text : String} (numeral : IsNumeral text) : Lexes text.toList [.number text] :=
  fun _ bounded => LexState.run_isNumeral numeral bounded

theorem negative {text : String} (numeral : IsNumeral text) :
    Lexes ("-" ++ text).toList [.symbol '-', .number text] := by
  have minus : "-".toList = ['-'] := rfl
  rw [String.toList_append, minus]
  exact (Lexes.numeral numeral).symbol (by decide)

theorem qualified {qualifier name : String} (qualifierIdentifier : Naming.isIdentifier qualifier)
    (identifier : Naming.isIdentifier name) :
    Lexes (qualifier ++ "." ++ name).toList [.word qualifier, .symbol '.', .word name] := by
  have point : ".".toList = ['.'] := rfl
  intro rest bounded
  rw [String.toList_append, String.toList_append, point, List.append_assoc, List.append_assoc,
    List.singleton_append,
    LexState.run_identifier qualifierIdentifier (fun _ head => by cases head; rfl),
    LexState.run_symbol (by decide), LexState.run_identifier identifier bounded.ends,
    Option.map_map, Option.map_map]
  rfl

variable {text : String} {tokens : List Token}

theorem group (lexes : Lexes text.toList tokens) :
    Lexes ("(" ++ text ++ ")").toList (.symbol '(' :: (tokens ++ [.symbol ')'])) := by
  have opening : "(".toList = ['('] := rfl
  have closing : ")".toList = [')'] := rfl
  rw [String.toList_append, String.toList_append, opening, closing, List.append_assoc]
  exact (lexes.closed (by decide) rfl).symbol (by decide)

theorem record (lexes : Lexes text.toList tokens) :
    Lexes ("Record<string, " ++ text ++ ">").toList
      (.word "Record" :: .symbol '<' :: .word "string" :: .symbol ',' ::
        (tokens ++ [.symbol '>'])) := by
  have opening : "Record<string, ".toList =
      "Record".toList ++ '<' :: ("string".toList ++ [',', ' ']) := rfl
  have closing : ">".toList = ['>'] := rfl
  have values : Lexes (text.toList ++ ['>']) (tokens ++ [.symbol '>']) :=
    lexes.closed (by decide) rfl
  have key : Lexes ("string".toList ++ ',' :: ' ' :: (text.toList ++ ['>']))
      ([.word "string"] ++ .symbol ',' :: (tokens ++ [.symbol '>'])) :=
    (Lexes.identifier rfl).append_cons rfl (values.space.symbol (by decide))
  rw [String.toList_append, String.toList_append, opening, closing]
  simp only [List.append_assoc, List.cons_append, List.nil_append]
  exact (Lexes.identifier rfl).append_cons rfl (key.symbol (by decide))

theorem suffixed (lexes : Lexes text.toList tokens) :
    Lexes (text ++ "[]").toList (tokens ++ [.symbol '[', .symbol ']']) := by
  have suffix : "[]".toList = ['[', ']'] := rfl
  rw [String.toList_append, suffix]
  exact lexes.append_cons rfl ((Lexes.nil.symbol (by decide)).symbol (by decide))

/-- With nothing behind them, the characters are the tokens. -/
theorem tokens?_eq (lexes : Lexes text.toList tokens) : tokens? text = some tokens := by
  have whole := lexes [] (fun _ head => nomatch head)
  rw [List.append_nil] at whole
  rw [tokens?, whole, LexState.run, LexState.finish, Option.map_some, List.append_nil]

end Lexes

/-! ## Phrases -/

/-- The text is a phrase of the level. -/
def Reads (text : String) (level : Level) (tree : TypeTree) : Prop :=
  Exists fun tokens : List Token => Lexes text.toList tokens ∧ Derives level tokens tree

namespace Reads

theorem parses {text : String} {tree : TypeTree} (reads : Reads text .whole tree) :
    Parses text tree := by
  rcases reads with ⟨tokens, lexes, derives⟩
  exact ⟨tokens, lexes.tokens?_eq, derives⟩

theorem array_of_primary {text : String} {tree : TypeTree} (reads : Reads text .primary tree) :
    Reads text .array tree := by
  rcases reads with ⟨tokens, lexes, derives⟩
  have array := Derives.array 0 derives
  rw [brackets, List.append_nil] at array
  exact ⟨tokens, lexes, array⟩

/-- An operand alone is an operation with one operand. -/
theorem operation_of_operand {operator : Operator} {text : String} {tree : TypeTree}
    (reads : Reads text operator.operand tree) : Reads text (.operation operator) tree := by
  rcases reads with ⟨tokens, lexes, derives⟩
  have operation := Derives.operation operator ⟨tokens, tree⟩ [] derives
    (fun _ member => nomatch member)
  rw [List.flatMap_nil, List.append_nil] at operation
  exact ⟨tokens, lexes, operation⟩

theorem whole_of_array {text : String} {tree : TypeTree} (reads : Reads text .array tree) :
    Reads text .whole tree := by
  have intersection : Reads text (.operation .intersection) tree := reads.operation_of_operand
  exact intersection.operation_of_operand

/-! ### Names and literals -/

theorem name {name : String} (identifier : Naming.isIdentifier name) :
    Reads name .primary (.name none name) :=
  ⟨[.word name], Lexes.identifier identifier, .name name⟩

theorem declaredText {qualifier : Option String} {name : String}
    (qualifierIdentifier : ∀ name ∈ qualifier, Naming.isIdentifier name)
    (identifier : Naming.isIdentifier name) :
    Reads (TypeExpr.declaredText qualifier name) .primary (.name qualifier name) := by
  cases qualifier with
  | none => exact Reads.name identifier
  | some qualifier =>
      exact ⟨_, Lexes.qualified (qualifierIdentifier qualifier rfl) identifier,
        .qualified qualifier name⟩

theorem singleQuoted {value : String} (onLine : StaysOnLine value) :
    Reads (Naming.singleQuoted value) .primary (.string value) :=
  ⟨[.string value], Lexes.singleQuoted onLine, .string value⟩

theorem numeral {text : String} (numeral : IsNumeral text) :
    Reads text .primary (.number text) :=
  ⟨[.number text], Lexes.numeral numeral, .number text⟩

theorem negative {text : String} (numeral : IsNumeral text) :
    Reads ("-" ++ text) .primary (.number ("-" ++ text)) :=
  ⟨[.symbol '-', .number text], Lexes.negative numeral, .negative text⟩

/-! ### Compound types -/

theorem group {text : String} {tree : TypeTree} (reads : Reads text .whole tree) :
    Reads ("(" ++ text ++ ")") .primary tree := by
  rcases reads with ⟨tokens, lexes, derives⟩
  exact ⟨_, lexes.group, .group derives⟩

theorem record {text : String} {tree : TypeTree} (reads : Reads text .whole tree) :
    Reads ("Record<string, " ++ text ++ ">") .primary (.record tree) := by
  rcases reads with ⟨tokens, lexes, derives⟩
  exact ⟨_, lexes.record, .record derives⟩

theorem array {text : String} {items : TypeTree} (reads : Reads text .array items) :
    Reads (text ++ "[]") .array (.array items) := by
  rcases reads with ⟨tokens, lexes, derives⟩
  exact ⟨_, lexes.suffixed, derives.suffixed⟩

end Reads

/-! ## Operations -/

/-- What stands between operands. -/
def Operator.separator : Operator -> String
  | .union => " | "
  | .intersection => " & "

theorem Operator.toList_separator (operator : Operator) :
    operator.separator.toList = [' ', operator.symbol, ' '] := by
  cases operator <;> rfl

theorem Operator.symbol_mem_symbols (operator : Operator) : operator.symbol ∈ symbols := by
  cases operator <;> decide

theorem toList_intercalate_cons (separator first : String) (more : List String) :
    (separator.intercalate (first :: more)).toList =
      first.toList ++ more.flatMap (fun text => separator.toList ++ text.toList) := by
  induction more generalizing first with
  | nil => rw [String.intercalate_singleton, List.flatMap_nil, List.append_nil]
  | cons second more inductionHypothesis =>
      rw [String.intercalate_cons_cons, String.toList_append, String.toList_append,
        inductionHypothesis, List.flatMap_cons, List.append_assoc, List.append_assoc]

/-- Rows with a symbol between them. -/
def separated (symbol : Char) : List (List Token) -> List Token
  | [] => []
  | first :: more => first ++ more.flatMap (.symbol symbol :: ·)

section Operations

variable {Part : Type} {operator : Operator} {text : Part -> String} {row : Part -> List Token}
  {tree : Part -> TypeTree}

/-- The operands after the first one. -/
private theorem lexes_operands {parts : List Part}
    (each : ∀ part ∈ parts, Lexes (text part).toList (row part)) :
    Lexes (parts.flatMap fun part => ' ' :: operator.symbol :: ' ' :: (text part).toList)
      (parts.flatMap fun part => .symbol operator.symbol :: row part) := by
  induction parts with
  | nil => exact Lexes.nil
  | cons part parts inductionHypothesis =>
      rw [List.forall_mem_cons] at each
      rw [List.flatMap_cons, List.flatMap_cons]
      refine ((each.1.append (inductionHypothesis each.2) ?_).space.symbol
        operator.symbol_mem_symbols).space
      intro rest bounded
      cases parts with
      | nil => exact bounded
      | cons next later => exact Bounded.cons rfl _

/-- Operands with the operator between them. -/
theorem Lexes.separated {parts : List Part}
    (each : ∀ part ∈ parts, Lexes (text part).toList (row part)) :
    Lexes (operator.separator.intercalate (parts.map text)).toList
      (TypeScript.separated operator.symbol (parts.map row)) := by
  cases parts with
  | nil => exact Lexes.nil
  | cons first more =>
      rw [List.forall_mem_cons] at each
      rw [List.map_cons, toList_intercalate_cons, List.flatMap_map, operator.toList_separator,
        List.map_cons, TypeScript.separated, List.flatMap_map]
      refine each.1.append (lexes_operands each.2) ?_
      intro rest bounded
      cases more with
      | nil => exact bounded
      | cons next later => exact Bounded.cons rfl _

/-- Operands with the operator between them. -/
theorem Reads.operation {parts : List Part} (filled : parts ≠ [])
    (each : ∀ part ∈ parts, Reads (text part) operator.operand (tree part)) :
    Reads (operator.separator.intercalate (parts.map text)) (.operation operator)
      (.combined operator (parts.map tree)) := by
  choose! row lexes derives using each
  refine ⟨_, Lexes.separated lexes, ?_⟩
  cases parts with
  | nil => exact absurd rfl filled
  | cons first more =>
      rw [List.forall_mem_cons] at derives
      have operation := Derives.operation operator ⟨row first, tree first⟩
        (more.map fun part => ⟨row part, tree part⟩) derives.1
        (List.forall_mem_map.mpr derives.2)
      rw [List.flatMap_map, List.map_map] at operation
      rw [List.map_cons, List.map_cons, separated, List.flatMap_map]
      exact operation

/-- Two operands make an operation whose operands they are. -/
theorem Reads.pair {first second : String} {firstTree secondTree : TypeTree}
    (reads : Reads first operator.operand firstTree)
    (readsSecond : Reads second operator.operand secondTree) :
    Reads (operator.separator.intercalate [first, second]) (.operation operator)
      (.operation operator [firstTree, secondTree]) := by
  let parts := [(first, firstTree), (second, secondTree)]
  have each : ∀ part ∈ parts, Reads part.1 operator.operand part.2 := by
    rw [List.forall_mem_cons, List.forall_mem_singleton]
    exact ⟨reads, readsSecond⟩
  have pair : Reads (operator.separator.intercalate (parts.map Prod.fst)) (.operation operator)
      (.combined operator (parts.map Prod.snd)) := Reads.operation (List.cons_ne_nil _ _) each
  exact pair

end Operations

/-! ## Objects -/

/-- The token of a property key. -/
def keyToken (name : String) : Token :=
  if Naming.isIdentifier name then .word name else .string name

/-- The row of a member of an object, around the row of its value. -/
def memberRow (name : String) (value : List Token) : List Token :=
  keyToken name :: .symbol ':' :: (value ++ [.symbol ';'])

/-- The phrase of a member of an object, around the phrase of its value. -/
def memberPhrase (name : String) (value : Phrase) : MemberPhrase :=
  ⟨!Naming.isIdentifier name, name, value⟩

theorem tokens_memberPhrase (name : String) (value : Phrase) :
    (memberPhrase name value).tokens = memberRow name value.tokens := by
  rw [MemberPhrase.tokens, MemberPhrase.key, memberRow, keyToken, memberPhrase]
  cases Naming.isIdentifier name <;> rfl

section Objects

variable {Part : Type} {name : Part -> String} {text : Part -> String} {row : Part -> List Token}
  {tree : Part -> TypeTree}

theorem lexes_propertyKey {name : String} (onLine : StaysOnLine name) :
    Lexes (Naming.propertyKey name).toList [keyToken name] := by
  rw [Naming.propertyKey, keyToken]
  split
  next identifier => exact Lexes.identifier identifier
  next => exact Lexes.singleQuoted onLine

/-- The mark of a deprecated member is a comment. -/
theorem lexes_mark {characters : List Char} {tokens : List Token} (deprecated : Bool)
    (lexes : Lexes characters tokens) :
    Lexes ((if deprecated then "/** @deprecated */ " else "").toList ++ characters) tokens := by
  cases deprecated with
  | false => exact lexes
  | true =>
      intro rest bounded
      rw [if_pos rfl, List.append_assoc, LexState.run_passing rfl, lexes rest bounded]

theorem lexes_member {name text : String} {tokens : List Token} (onLine : StaysOnLine name)
    (deprecated : Bool) (lexes : Lexes text.toList tokens) :
    Lexes (TypeExpr.memberText name deprecated text).toList (memberRow name tokens) := by
  have colon : ": ".toList = [':', ' '] := rfl
  have semicolon : ";".toList = [';'] := rfl
  have value : Lexes (text.toList ++ [';']) (tokens ++ [.symbol ';']) :=
    lexes.closed (by decide) rfl
  rw [TypeExpr.memberText, String.toList_append, String.toList_append, String.toList_append,
    String.toList_append, colon, semicolon]
  simp only [List.append_assoc, List.cons_append, List.nil_append]
  exact lexes_mark deprecated
    ((lexes_propertyKey onLine).append_cons rfl (value.space.symbol (by decide)))

/-- The members of an object with what closes it, so that each is in front of a boundary. -/
private theorem lexes_members {parts : List Part} (deprecated : Part -> Bool)
    (each : ∀ part ∈ parts, StaysOnLine (name part) ∧ Lexes (text part).toList (row part)) :
    Lexes ((parts.flatMap fun part =>
        ' ' :: (TypeExpr.memberText (name part) (deprecated part) (text part)).toList) ++
          [' ', '}'])
      ((parts.flatMap fun part => memberRow (name part) (row part)) ++ [.symbol '}']) := by
  induction parts with
  | nil => exact (Lexes.nil.symbol (by decide)).space
  | cons part parts inductionHypothesis =>
      rw [List.forall_mem_cons] at each
      have first := lexes_member each.1.1 (deprecated part) each.1.2
      rw [List.flatMap_cons, List.flatMap_cons, List.append_assoc, List.append_assoc]
      refine (first.append (inductionHypothesis each.2) ?_).space
      intro rest _
      cases parts with
      | nil => exact Bounded.cons rfl _
      | cons next later => exact Bounded.cons rfl _

/-- Members in the order in which they are written. -/
theorem Lexes.object {parts : List Part} (filled : parts ≠ []) (deprecated : Part -> Bool)
    (each : ∀ part ∈ parts, StaysOnLine (name part) ∧ Lexes (text part).toList (row part)) :
    Lexes ("\x7b " ++ String.intercalate " " (parts.map fun part =>
        TypeExpr.memberText (name part) (deprecated part) (text part)) ++ " \x7d").toList
      (.symbol '{' ::
        ((parts.flatMap fun part => memberRow (name part) (row part)) ++ [.symbol '}'])) := by
  have opening : "\x7b ".toList = ['{', ' '] := rfl
  have closing : " \x7d".toList = [' ', '}'] := rfl
  have between : " ".toList = [' '] := rfl
  have members := lexes_members deprecated each
  cases parts with
  | nil => exact absurd rfl filled
  | cons first more =>
      rw [String.toList_append, String.toList_append, opening, closing, List.map_cons,
        toList_intercalate_cons, between, List.flatMap_map, List.append_assoc]
      exact members.symbol (by decide)

theorem Lexes.emptyObject : Lexes "\x7b\x7d".toList [.symbol '{', .symbol '}'] :=
  (Lexes.nil.symbol (by decide)).symbol (by decide)

theorem Reads.emptyObject : Reads "\x7b\x7d" .primary (.object []) :=
  ⟨_, Lexes.emptyObject, .object [] (List.forall_mem_nil _)⟩

/-- Members in the order in which they are written. -/
theorem Reads.object {parts : List Part} (filled : parts ≠ []) (deprecated : Part -> Bool)
    (each : ∀ part ∈ parts, StaysOnLine (name part) ∧ Reads (text part) .whole (tree part)) :
    Reads ("\x7b " ++ String.intercalate " " (parts.map fun part =>
        TypeExpr.memberText (name part) (deprecated part) (text part)) ++ " \x7d") .primary
      (.object (parts.map fun part => (name part, tree part))) := by
  choose! onLine row lexes derives using each
  refine ⟨_, Lexes.object filled deprecated
    (fun part member => ⟨onLine part member, lexes part member⟩), ?_⟩
  have object := Derives.object
    (parts.map fun part => memberPhrase (name part) ⟨row part, tree part⟩)
    (List.forall_mem_map.mpr derives)
  simp only [List.flatMap_map, tokens_memberPhrase, List.map_map] at object
  exact object

end Objects

end TypeScript
end OpenApiTypes
