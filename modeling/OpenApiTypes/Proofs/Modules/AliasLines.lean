import OpenApiTypes.Proofs.Modules.WrittenTypes
import OpenApiTypes.Proofs.TypeScript.LineEnds
import OpenApiTypes.Proofs.TypeScript.Tidy
import OpenApiTypes.Schema.Keywords

namespace OpenApiTypes

/-!
# The aliases of the schemas module as lines

The schemas module is a row of aliases with a blank line between each two.  As long as an
alias has no line feed in it, it is one line of the module, and the formatter writes it as it
stands, whatever it makes of the backticks in it.  A line feed in a listed string or in a name
cuts the alias into lines, and those are tidied like any others.
-/

namespace TypeScript

/-! ## Lines that the formatter keeps -/

/-- A line with something in it and no blanks at its end. -/
structure IsSettled (line : List Char) : Prop where
  within : '\n' ∉ line
  filled : line ≠ []
  trimmed : Text.trimEndChars line = line

namespace IsSettled

theorem dropFinalReturn {line : List Char} (settled : IsSettled line) :
    Text.dropFinalReturn line = line := by
  rw [← settled.trimmed]
  exact dropFinalReturn_trimEndChars line

theorem copied {line : List Char} (settled : IsSettled line) (inside : Bool) :
    copied inside line = line := by
  unfold TypeScript.copied
  split
  · rfl
  · exact settled.trimmed

theorem skipped {line : List Char} (settled : IsSettled line) (inside : Bool) :
    skipped inside line = false := by
  rw [TypeScript.skipped, settled.copied, List.isEmpty_eq_false_iff.mpr settled.filled]
  rfl

end IsSettled

/-- Settled lines with a blank line between each two are written as they stand, inside a
template literal or not, after a blank line when one is pending. -/
theorem tidyLines_intersperse {line : List Char} {lines : List (List Char)}
    (settled : ∀ each ∈ line :: lines, IsSettled each) (inside started pending : Bool)
    (rest : List (List Char)) :
    Exists fun later : Bool =>
      tidyLines ⟨inside, started, pending⟩ ((line :: lines).intersperse [] ++ rest) =
        (if pending then [[]] else []) ++
          ((line :: lines).intersperse [] ++ tidyLines ⟨later, true, false⟩ rest) := by
  induction lines generalizing line inside started pending with
  | nil =>
      have here := settled line List.mem_cons_self
      refine ⟨xor inside (togglesTemplate false line), ?_⟩
      rw [List.intersperse_singleton, List.singleton_append,
        tidyLines_of_not_skipped (here.skipped inside), here.copied]
      cases pending <;> rfl
  | cons next lines inductionHypothesis =>
      rw [List.forall_mem_cons] at settled
      rcases settled with ⟨here, others⟩
      rw [List.intersperse_cons_cons, List.cons_append, List.cons_append,
        tidyLines_of_not_skipped (here.skipped inside), here.copied]
      -- The blank line is content of a template literal, or it is left pending.
      cases toggled : xor inside (togglesTemplate false line) with
      | false =>
          rcases inductionHypothesis others false true true with ⟨later, same⟩
          refine ⟨later, ?_⟩
          have blank : TypeScript.skipped false [] = true := rfl
          rw [tidyLines_of_skipped blank, same]
          cases pending <;> rfl
      | true =>
          rcases inductionHypothesis others true true false with ⟨later, same⟩
          refine ⟨later, ?_⟩
          have content : TypeScript.skipped true [] = false := rfl
          rw [tidyLines_of_not_skipped content]
          change _ ++ ([[]] ++ tidyLines ⟨true, true, false⟩ _) = _
          rw [same]
          cases pending <;> rfl

/-! ## Texts with blank lines between them -/

/-- Lines with a blank line between each two, each of them ended. -/
theorem ended_intersperse {texts : List String} (filled : texts ≠ []) :
    Text.ended ((texts.map String.toList).intersperse []) =
      (String.intercalate "\n\n" texts ++ "\n").toList := by
  have feed : "\n".toList = ['\n'] := rfl
  have apart : "\n\n".toList = ['\n', '\n'] := rfl
  induction texts with
  | nil => exact absurd rfl filled
  | cons first more inductionHypothesis =>
      cases more with
      | nil =>
          rw [String.intercalate_singleton, String.toList_append, feed]
          exact Text.ended_cons first.toList []
      | cons second more =>
          have later := inductionHypothesis (List.cons_ne_nil second more)
          rw [List.map_cons] at later
          rw [List.map_cons, List.map_cons, List.intersperse_cons_cons, Text.ended_cons,
            Text.ended_cons, later, String.intercalate_cons_cons]
          simp only [String.toList_append, apart, feed, List.append_assoc, List.cons_append,
            List.nil_append]

section Texts

variable {texts : List String} (settled : ∀ text ∈ texts, IsSettled text.toList)

include settled

/-- The lines of settled texts, with a blank line between each two. -/
theorem lines_intercalate :
    Text.lines (String.intercalate "\n\n" texts).toList =
      (texts.map String.toList).intersperse [] := by
  induction texts with
  | nil => rfl
  | cons first more inductionHypothesis =>
      rw [List.forall_mem_cons] at settled
      cases more with
      | nil =>
          rw [String.intercalate_singleton]
          exact Text.lines_of_not_mem settled.1.within settled.1.filled
      | cons second more =>
          have apart : "\n\n".toList = ['\n', '\n'] := rfl
          have blank (rest : List Char) :
              Text.lines ('\n' :: rest) = [] :: Text.lines rest :=
            Text.lines_append_newline List.not_mem_nil rest
          rw [String.intercalate_cons_cons, String.toList_append, String.toList_append, apart,
            List.append_assoc, List.cons_append, List.singleton_append,
            Text.lines_append_newline settled.1.within, settled.1.dropFinalReturn, blank,
            inductionHypothesis settled.2]
          rfl

/-- The formatter only ends the last line. -/
theorem tidy_intercalate (filled : texts ≠ []) :
    tidy (String.intercalate "\n\n" texts) = String.intercalate "\n\n" texts ++ "\n" := by
  have written : writtenLines (String.intercalate "\n\n" texts).toList =
      (texts.map String.toList).intersperse [] := by
    rw [writtenLines, lines_intercalate settled]
    cases texts with
    | nil => exact absurd rfl filled
    | cons first more =>
        rw [List.map_cons]
        have kept := tidyLines_intersperse
          (List.forall_mem_map.mpr settled : ∀ line ∈ (first :: more).map String.toList, _)
          false false false []
        rcases kept with ⟨later, same⟩
        rw [List.append_nil] at same
        exact same.trans (List.append_nil _)
  rw [tidy, tidyChars_eq, written, ended_intersperse filled, String.ofList_toList]

end Texts

end TypeScript

namespace Modules

open TypeScript

/-! ## Aliases -/

theorem not_mem_aliasText_iff {character : Char} (ends : isLineTerminator character = true)
    (name type : String) :
    character ∉ (aliasText name type).toList ↔
      character ∉ name.toList ∧ character ∉ type.toList := by
  have opening : character ∉ "export type ".toList := not_mem_of_staysOnLine ends (by decide)
  have equals : character ∉ " = ".toList := not_mem_of_staysOnLine ends (by decide)
  have closing : character ∉ ";".toList := not_mem_of_staysOnLine ends (by decide)
  change character ∉ ("export type " ++ name ++ " = " ++ type ++ ";").toList ↔ _
  simp only [String.toList_append, List.mem_append, opening, equals, closing, false_or, or_false,
    not_or]

/-- An alias without a line feed in it is settled. -/
theorem isSettled_aliasText {name type : String} (within : '\n' ∉ (aliasText name type).toList) :
    IsSettled (aliasText name type).toList where
  within := within
  filled := by
    change ("export type " ++ name ++ " = " ++ type ++ ";").toList ≠ []
    rw [String.toList_append]
    exact List.concat_ne_nil _ _
  trimmed := by
    change Text.trimEndChars ("export type " ++ name ++ " = " ++ type ++ ";").toList =
      ("export type " ++ name ++ " = " ++ type ++ ";").toList
    rw [trimEndChars_eq_rdropWhile, String.toList_append]
    exact List.rdropWhile_concat_neg _ _ _ (by decide)

/-- The aliases that the schemas module is made of. -/
def schemaAliases (settings : Settings) (document : Document) : List String :=
  (Text.sortOn Prod.fst document.componentSchemas).map (fun entry =>
    aliasText entry.1 (typeText (localContext settings) entry.2))

theorem schemaAliases_eq_nil_iff (settings : Settings) (document : Document) :
    schemaAliases settings document = [] ↔ document.componentSchemas = [] := by
  have sorted := Text.sortOn_perm Prod.fst document.componentSchemas
  rw [schemaAliases, List.map_eq_nil_iff]
  constructor
  · intro empty
    rw [empty] at sorted
    exact List.nil_perm.mp sorted
  · intro empty
    rw [empty] at sorted ⊢
    exact List.perm_nil.mp sorted

theorem schemasBody?_eq_aliases (settings : Settings) (document : Document) :
    schemasBody? settings document =
      if document.componentSchemas.isEmpty then none
      else some (String.intercalate "\n\n" (schemaAliases settings document)) :=
  schemasBody?_eq settings document

/-- The names and the schemas that the module declares have no line feed in them. -/
def SchemasOnLines (settings : Settings) (document : Document) : Prop :=
  ∀ entry ∈ document.componentSchemas,
    '\n' ∉ entry.1.toList ∧ entry.2.Everywhere (Schema.Lacks (localContext settings) '\n')

theorem newline_not_mem_schemaAliases_iff (settings : Settings) (document : Document) :
    (∀ text ∈ schemaAliases settings document, '\n' ∉ text.toList) ↔
      SchemasOnLines settings document := by
  have feed : isLineTerminator '\n' = true := rfl
  simp only [schemaAliases, List.forall_mem_map, (Text.sortOn_perm Prod.fst _).mem_iff,
    not_mem_aliasText_iff feed, not_mem_typeText_iff feed]
  exact .rfl

theorem isSettled_schemaAliases {settings : Settings} {document : Document}
    (onLines : SchemasOnLines settings document) :
    ∀ text ∈ schemaAliases settings document, IsSettled text.toList := by
  intro text listed
  have within := (newline_not_mem_schemaAliases_iff settings document).mpr onLines text listed
  rcases List.mem_map.mp listed with ⟨entry, _, rfl⟩
  exact isSettled_aliasText within

private theorem mem_intersperse {Item : Type} {item : Item} {items : List Item}
    (listed : item ∈ items) (separator : Item) : item ∈ items.intersperse separator := by
  rcases List.getElem?_of_mem listed with ⟨index, here⟩
  refine List.mem_of_getElem? (i := 2 * index) ?_
  rw [List.getElem?_intersperse_two_mul, here]

/-- A line end stands in the type of a schema exactly when it stands in a listed string, in a
property name or in a reference, since quoting leaves it as it is.  The aliases are the lines of
the schemas module exactly when no line feed is in one, and then the formatter keeps them
wherever they stand. -/
theorem schemaAliases_on_lines (settings : Settings) (document : Document) :
    (forall (context : TypeContext) (schema : Schema) (terminator : Char),
      isLineTerminator terminator = true ->
        (terminator ∉ (typeText context schema).toList ↔
          schema.Everywhere (Schema.Lacks context terminator))) ∧
      ∀ body ∈ schemasBody? settings document,
        (Text.lines body.toList =
            ((schemaAliases settings document).map String.toList).intersperse [] ↔
          SchemasOnLines settings document) ∧
        (SchemasOnLines settings document ->
          tidy body = body ++ "\n" ∧
            forall (inside started pending : Bool) (rest : List (List Char)),
              Exists fun later : Bool =>
                tidyLines ⟨inside, started, pending⟩ (Text.lines body.toList ++ rest) =
                  (if pending then [[]] else []) ++
                    (Text.lines body.toList ++ tidyLines ⟨later, true, false⟩ rest)) := by
  refine ⟨fun context schema _ ends => not_mem_typeText_iff ends context schema, ?_⟩
  intro body made
  rw [schemasBody?_eq_aliases, Option.mem_def, Option.ite_none_left_eq_some] at made
  rcases made with ⟨filled, same⟩
  cases same
  have nonempty : schemaAliases settings document ≠ [] := by
    rw [Ne, schemaAliases_eq_nil_iff, ← List.isEmpty_iff]
    exact filled
  refine ⟨⟨?_, fun onLines => lines_intercalate (isSettled_schemaAliases onLines)⟩, ?_⟩
  · intro cut
    rw [← newline_not_mem_schemaAliases_iff]
    intro text listed
    have line := mem_intersperse (List.mem_map_of_mem (f := String.toList) listed) []
    rw [← cut] at line
    exact Text.newline_not_mem_lines _ _ line
  · intro onLines
    have settled := isSettled_schemaAliases onLines
    refine ⟨tidy_intercalate settled nonempty, ?_⟩
    intro inside started pending rest
    rw [lines_intercalate settled]
    have lines := List.forall_mem_map.mpr settled
    rcases List.exists_cons_of_ne_nil nonempty with ⟨first, more, same⟩
    rw [same, List.map_cons] at lines ⊢
    exact tidyLines_intersperse lines inside started pending rest

/-- A component schema that lists a backtick and a carriage return. -/
def backtickListed : Document :=
  ⟨.empty, some ⟨⟨[("A", .enumeration [.string "`", .string "\r"])], by decide⟩, .empty, .empty⟩⟩

/-- The alias is one line and the formatter keeps it, although the carriage return stands in it
as it is. -/
theorem schemaAliases_on_lines_backtickListed :
    '\r' ∈ (typeText ⟨none, .unknown⟩ (.enumeration [.string "`", .string "\r"])).toList ∧
      tidy "export type A = ('`' | '\r');" = "export type A = ('`' | '\r');\n" := by
  have sorted : Text.sortOn Prod.fst backtickListed.componentSchemas =
      [("A", .enumeration [.string "`", .string "\r"])] :=
    Text.sortOn_eq_of_perm (List.Perm.refl _) (List.pairwise_singleton _ _)
  have body : schemasBody? {} backtickListed = some "export type A = ('`' | '\r');" := by
    rw [schemasBody?_eq, sorted]
    decide
  have onLines : SchemasOnLines {} backtickListed := by
    refine List.forall_mem_singleton.mpr ⟨by decide, (Schema.everywhere_iff ..).mpr ⟨?_, nofun⟩⟩
    intro value listed
    simp only [List.mem_cons, Schema.Literal.string.injEq, List.not_mem_nil, or_false] at listed
    rcases listed with rfl | rfl <;> decide
  rcases schemaAliases_on_lines {} backtickListed with ⟨types, aliases⟩
  refine ⟨?_, ((aliases _ body).2 onLines).1⟩
  by_contra absent
  exact (types ⟨none, .unknown⟩ _ '\r' rfl).mp absent _ .refl "\r" (by decide) (by decide)

/-- A line feed in a listed string is written as it is, so that the literal goes on in the next
line.  The formatter changes the string that is listed: it drops the blanks in front of the
first line feed, and one of the blank lines. -/
theorem typeText_listedLineFeed :
    (Schema.read (.object [("enum", .array [.string "a  \n\n\nb"])])).map
        (typeText ⟨none, .unknown⟩) = .ok "('a  \n\n\nb')" ∧
      '\n' ∈ "('a  \n\n\nb')".toList ∧
      tidy (aliasText "A" "('a  \n\n\nb')") = aliasText "A" "('a\n\nb')" ++ "\n" :=
  ⟨rfl, by decide, by decide⟩

end Modules
end OpenApiTypes
