import OpenApiTypes.Modules.Endpoints
import OpenApiTypes.Proofs.Modules.WrittenTypes
import OpenApiTypes.Proofs.Text.Pieces
import OpenApiTypes.Proofs.TypeScript.Phrases
import Mathlib.Data.List.Forall2

namespace OpenApiTypes
namespace Modules

/-!
# The parts of a path type

The type of a path has a part for each segment.  A segment that is an expression, a name in
braces, becomes an interpolation of the type of its parameter; other segments are fixed.
Expressions are told by the braces around a whole segment, so an expression that shares its
segment with other text is not one of them.
-/

/-! ## Expressions -/

/-- The name in an expression: some characters, and no braces among them. -/
def IsExpressionName (name : List Char) : Prop :=
  name ≠ [] ∧ '{' ∉ name ∧ '}' ∉ name

instance (name : List Char) : Decidable (IsExpressionName name) :=
  inferInstanceAs (Decidable (name ≠ [] ∧ '{' ∉ name ∧ '}' ∉ name))

/-- A segment in braces. -/
def braced (inner : List Char) : List Char :=
  '{' :: (inner ++ ['}'])

/-- The names of the expressions in a path.  What has been read of a name is kept in reverse. -/
def expressionsFrom (reading : Option (List Char)) : List Char -> List (List Char)
  | [] => []
  | character :: rest =>
      if character = '{' then expressionsFrom (some []) rest
      else if character = '}' then
        match reading with
        | some (last :: before) => (last :: before).reverse :: expressionsFrom none rest
        | _ => expressionsFrom none rest
      else expressionsFrom (reading.map (character :: ·)) rest

/-- The names of the expressions that occur in a path, in order. -/
def pathExpressions (path : String) : List (List Char) :=
  expressionsFrom none path.toList

/-- An expression takes up the segment, or there is no brace in it. -/
def IsWhole (segment : List Char) : Prop :=
  ('{' ∉ segment ∧ '}' ∉ segment) ∨
    Exists fun name : List Char => IsExpressionName name ∧ segment = braced name

theorem segmentParameter?_eq_some_iff (segment inner : List Char) :
    segmentParameter? segment = some inner ↔ inner ≠ [] ∧ segment = braced inner := by
  constructor
  · intro found
    unfold segmentParameter? at found
    split at found
    next rest =>
      split at found
      next last =>
        rcases List.getLast?_eq_some_iff.mp last with ⟨front, rfl⟩
        rw [List.dropLast_concat, Option.ite_none_left_eq_some] at found
        rcases found with ⟨filled, same⟩
        cases same
        exact ⟨fun empty => filled (List.isEmpty_iff.mpr empty), rfl⟩
      next => cases found
    next => cases found
  · rintro ⟨filled, rfl⟩
    simp [segmentParameter?, braced, filled]

theorem segmentParameter?_eq_none_iff (segment : List Char) :
    segmentParameter? segment = none ↔
      forall inner : List Char, inner ≠ [] -> segment ≠ braced inner := by
  simp only [Option.eq_none_iff_forall_ne_some, ne_eq, segmentParameter?_eq_some_iff, not_and]

/-- The segment stands for a parameter: there is something in braces, and nothing else. -/
def IsParameterSegment (segment : List Char) : Prop :=
  Exists fun name : List Char => name ≠ [] ∧ segment = braced name

/-! ## Fixed text -/

/-- What fixed text in a template literal says: a backslash takes the next character as it is.
Nothing is said where the literal would end or an interpolation begin. -/
def readFixed? : List Char -> Option (List Char)
  | [] => some []
  | '\\' :: taken :: rest => (readFixed? rest).map (taken :: ·)
  | ['\\'] => none
  | '`' :: _ => none
  | '$' :: '{' :: _ => none
  | character :: rest => (readFixed? rest).map (character :: ·)

private theorem head?_escapeTemplate (characters : List Char) :
    (escapeTemplate characters).head? = some '{' ↔ characters.head? = some '{' := by
  fun_cases escapeTemplate characters <;> simp

/-- Escaped text says what was escaped. -/
theorem readFixed?_escapeTemplate (characters : List Char) :
    readFixed? (escapeTemplate characters) = some characters := by
  fun_induction escapeTemplate characters with
  | case1 => rfl
  | case2 rest inductionHypothesis => rw [readFixed?, inductionHypothesis, Option.map_some]
  | case3 rest inductionHypothesis => rw [readFixed?, inductionHypothesis, Option.map_some]
  | case4 rest inductionHypothesis =>
      rw [readFixed?, readFixed?, inductionHypothesis, Option.map_some, Option.map_some]
      all_goals nofun
  | case5 character rest notBackslash notBacktick notOpening inductionHypothesis =>
      rw [readFixed?, inductionHypothesis, Option.map_some]
      · exact fun _ _ same _ => notBackslash same
      · exact fun same _ => notBackslash same
      · exact notBacktick
      · intro tail dollar opens
        have head : rest.head? = some '{' :=
          (head?_escapeTemplate rest).mp (congrArg List.head? opens)
        rcases List.head?_eq_some_iff.mp head with ⟨later, same⟩
        exact notOpening later dollar same

/-! ## Parts -/

/-- What a segment of a path becomes. -/
inductive TemplatePart where
  | fixed (written : List Char)
  | interpolation (type : String)

namespace TemplatePart

/-- The text of a part. -/
def text : TemplatePart -> String
  | .fixed written => String.ofList written
  | .interpolation type => "$\x7b" ++ type ++ "\x7d"

/-- The type that a part interpolates. -/
def type? : TemplatePart -> Option String
  | .fixed _ => none
  | .interpolation type => some type

end TemplatePart

/-- The type of an expression: that of the parameter that its name stands for; no value fits
where none is declared. -/
def expressionType (context : TypeScript.TypeContext) (operation : Operation)
    (name : List Char) : String :=
  match operation.pathParameter? (String.ofList name) with
  | some parameter => TypeScript.typeText context (parameter.schema.getD .unknown)
  | none => "never"

/-- The part becomes of the segment: an interpolation of an expression, and fixed text that
says the segment where there are no braces around it. -/
structure BecomesPart (context : TypeScript.TypeContext) (operation : Operation)
    (segment : List Char) (part : TemplatePart) : Prop where
  expression : forall name : List Char, IsExpressionName name -> segment = braced name ->
    part = .interpolation (expressionType context operation name)
  fixed : (forall inner : List Char, inner ≠ [] -> segment ≠ braced inner) ->
    ∃ written, part = .fixed written ∧ readFixed? written = some segment

/-- The part of a segment. -/
def segmentPart (context : TypeScript.TypeContext) (operation : Operation)
    (segment : List Char) : TemplatePart :=
  match segmentParameter? segment with
  | some name => .interpolation (expressionType context operation name)
  | none => .fixed (escapeTemplate segment)

section Parts

variable (context : TypeScript.TypeContext) (operation : Operation)

theorem pathParameterType?_getD (name : List Char) :
    (pathParameterType? context operation (String.ofList name)).getD "never" =
      expressionType context operation name := by
  rw [expressionType]
  change (Option.map _ (operation.pathParameter? (String.ofList name))).getD "never" = _
  cases operation.pathParameter? (String.ofList name) <;> rfl

theorem segmentText_eq (segment : List Char) :
    segmentText (pathParameterType? context operation) segment =
      (segmentPart context operation segment).text := by
  rw [segmentText, segmentPart]
  cases segmentParameter? segment with
  | none => rfl
  | some name =>
      dsimp only
      rw [pathParameterType?_getD]
      rfl

theorem becomesPart_segmentPart (segment : List Char) :
    BecomesPart context operation segment (segmentPart context operation segment) where
  expression := by
    rintro name ⟨filled, _⟩ same
    rw [segmentPart, (segmentParameter?_eq_some_iff segment name).mpr ⟨filled, same⟩]
  fixed := by
    intro bare
    rw [segmentPart, (segmentParameter?_eq_none_iff segment).mpr bare]
    exact ⟨_, rfl, readFixed?_escapeTemplate segment⟩

end Parts

/-! ## Expressions in order -/

theorem expressionsFrom_opening (reading : Option (List Char)) (rest : List Char) :
    expressionsFrom reading ('{' :: rest) = expressionsFrom (some []) rest := by
  rcases reading with _ | _ | _ <;> rfl

theorem expressionsFrom_other (reading : Option (List Char)) {character : Char}
    (opens : character ≠ '{') (closes : character ≠ '}') (rest : List Char) :
    expressionsFrom reading (character :: rest) =
      expressionsFrom (reading.map (character :: ·)) rest := by
  rcases reading with _ | _ | _ <;> simp [expressionsFrom, opens, closes]

theorem expressionsFrom_plain (reading : Option (List Char)) {plain : List Char}
    (opens : '{' ∉ plain) (closes : '}' ∉ plain) (rest : List Char) :
    expressionsFrom reading (plain ++ rest) =
      expressionsFrom (reading.map (plain.reverse ++ ·)) rest := by
  induction plain generalizing reading with
  | nil =>
      have same : reading.map ([] ++ ·) = reading := Option.map_id'
      rw [List.reverse_nil, same, List.nil_append]
  | cons character plain inductionHypothesis =>
      rw [List.mem_cons, not_or] at opens closes
      rw [List.cons_append, expressionsFrom_other _ (Ne.symm opens.1) (Ne.symm closes.1),
        inductionHypothesis _ opens.2 closes.2, Option.map_map, List.reverse_cons]
      refine congrArg (expressionsFrom · rest) (congrArg (Option.map · reading) ?_)
      funext before
      exact (List.append_assoc plain.reverse [character] before).symm

theorem expressionsFrom_braced {name : List Char} (isName : IsExpressionName name)
    (rest : List Char) :
    expressionsFrom none (braced name ++ rest) = name :: expressionsFrom none rest := by
  rcases isName with ⟨filled, opens, closes⟩
  have opening : expressionsFrom none (braced name ++ rest) =
      expressionsFrom (some []) (name ++ '}' :: rest) := by
    rw [braced, List.cons_append, List.append_assoc, expressionsFrom_opening]
    rfl
  rw [opening, expressionsFrom_plain _ opens closes]
  rcases List.exists_cons_of_ne_nil (List.reverse_ne_nil_iff.mpr filled) with
    ⟨last, before, reversed⟩
  have read : (some []).map (name.reverse ++ ·) = some (last :: before) := by
    rw [Option.map_some, List.append_nil, reversed]
  have closing : expressionsFrom (some (last :: before)) ('}' :: rest) =
      (last :: before).reverse :: expressionsFrom none rest := rfl
  rw [read, closing, ← reversed, List.reverse_reverse]

/-- The expression that takes up a segment. -/
def segmentExpressions (segment : List Char) : List (List Char) :=
  (segmentParameter? segment).toList

theorem expressionsFrom_whole {segment : List Char} (whole : IsWhole segment) (rest : List Char) :
    expressionsFrom none (segment ++ rest) =
      segmentExpressions segment ++ expressionsFrom none rest := by
  rcases whole with ⟨opens, closes⟩ | ⟨name, isName, rfl⟩
  · have bare : segmentParameter? segment = none := by
      rw [segmentParameter?_eq_none_iff]
      rintro inner _ rfl
      exact opens List.mem_cons_self
    rw [expressionsFrom_plain none opens closes, segmentExpressions, bare]
    rfl
  · have found : segmentParameter? (braced name) = some name :=
      (segmentParameter?_eq_some_iff ..).mpr ⟨isName.1, rfl⟩
    rw [expressionsFrom_braced isName, segmentExpressions, found]
    rfl

private theorem expressionsFrom_segments {first : List Char} {more : List (List Char)}
    (whole : ∀ segment ∈ first :: more, IsWhole segment) :
    expressionsFrom none (first ++ more.flatMap ('/' :: ·)) =
      (first :: more).flatMap segmentExpressions := by
  induction more generalizing first with
  | nil => exact expressionsFrom_whole (whole first List.mem_cons_self) []
  | cons next more inductionHypothesis =>
      rw [List.forall_mem_cons] at whole
      have slash (rest : List Char) : expressionsFrom none ('/' :: rest) =
          expressionsFrom none rest := expressionsFrom_other none (by decide) (by decide) rest
      rw [expressionsFrom_whole whole.1, List.flatMap_cons, List.cons_append, slash,
        inductionHypothesis whole.2]
      rfl

/-- Where expressions are whole segments, they are those of the segments. -/
theorem pathExpressions_eq {path : String}
    (whole : ∀ segment ∈ pathSegments path, IsWhole segment) :
    pathExpressions path = (pathSegments path).flatMap segmentExpressions := by
  have behind : expressionsFrom none path.toList =
      expressionsFrom none (withoutLeadingSlash path.toList) := by
    unfold withoutLeadingSlash
    split
    next rest characters =>
      rw [characters]
      exact expressionsFrom_other none (by decide) (by decide) rest
    next => rfl
  rcases Text.exists_splitAt '/' (withoutLeadingSlash path.toList) with ⟨first, more, cut, same⟩
  rw [pathSegments, cut] at whole ⊢
  rw [pathExpressions, behind, same, expressionsFrom_segments whole]

/-! ## Path types -/

/-- A path without its leading slash, from its segments. -/
theorem intercalate_pathSegments (path : String) :
    String.intercalate "/" ((pathSegments path).map String.ofList) =
      String.ofList (withoutLeadingSlash path.toList) := by
  rcases Text.exists_splitAt '/' (withoutLeadingSlash path.toList) with ⟨first, more, cut, same⟩
  have slash : "/".toList = ['/'] := rfl
  rw [pathSegments, cut, same, ← String.toList_inj, List.map_cons,
    TypeScript.toList_intercalate_cons, List.flatMap_map, slash]
  simp only [String.toList_ofList, List.singleton_append]

theorem singleQuoted_slash_append (text : String) :
    Naming.singleQuoted ("/" ++ text) = "'/" ++ Naming.escapeSingleQuoted text ++ "'" := by
  have escaped : Naming.escapeSingleQuoted ("/" ++ text) =
      "/" ++ Naming.escapeSingleQuoted text := by
    simp only [← String.toList_inj, Naming.escapeSingleQuoted, String.toList_append,
      String.toList_ofList]
    rfl
  have opening : "'" ++ "/" = "'/" := rfl
  rw [Naming.singleQuoted, escaped, ← String.append_assoc, opening]

theorem isSome_type?_segmentPart (context : TypeScript.TypeContext) (operation : Operation)
    (segment : List Char) :
    (segmentPart context operation segment).type?.isSome = (segmentParameter? segment).isSome := by
  rw [segmentPart]
  cases segmentParameter? segment <;> rfl

theorem pathType_eq (context : TypeScript.TypeContext) (operation : Operation) (path : String) :
    pathType (pathParameterType? context operation) path =
      if ((pathSegments path).map (segmentPart context operation)).any (·.type?.isSome) then
        "`/" ++ String.intercalate "/"
          (((pathSegments path).map (segmentPart context operation)).map TemplatePart.text) ++ "`"
      else
        Naming.singleQuoted
          ("/" ++ String.intercalate "/" ((pathSegments path).map String.ofList)) := by
  have interpolates :
      ((pathSegments path).map (segmentPart context operation)).any (·.type?.isSome) =
        (pathSegments path).any (fun segment => (segmentParameter? segment).isSome) := by
    rw [List.any_map]
    refine congrArg (List.any (pathSegments path)) ?_
    funext segment
    exact isSome_type?_segmentPart context operation segment
  have texts : (pathSegments path).map (segmentText (pathParameterType? context operation)) =
      ((pathSegments path).map (segmentPart context operation)).map TemplatePart.text := by
    rw [List.map_map]
    exact List.map_congr_left fun segment _ => segmentText_eq context operation segment
  rw [pathType, interpolates, texts, intercalate_pathSegments, singleQuoted_slash_append]

/-- Without a parameter segment the type of a path is the path, quoted. -/
theorem pathType_of_none (context : TypeScript.TypeContext) (operation : Operation)
    {path : String} (none : ∀ segment ∈ pathSegments path, ¬IsParameterSegment segment) :
    pathType (pathParameterType? context operation) path =
      Naming.singleQuoted ("/" ++ String.ofList (withoutLeadingSlash path.toList)) := by
  rw [pathType_eq, if_neg, intercalate_pathSegments]
  rw [Bool.not_eq_true, List.any_eq_false, List.forall_mem_map]
  intro segment listed
  rw [isSome_type?_segmentPart, Bool.not_eq_true, Option.isSome_eq_false_iff,
    Option.isNone_iff_eq_none, segmentParameter?_eq_none_iff]
  exact fun name filled same => none segment listed ⟨name, filled, same⟩

/-- With a parameter segment it is a template literal. -/
theorem pathType_of_some (context : TypeScript.TypeContext) (operation : Operation)
    {path : String} (some : ∃ segment ∈ pathSegments path, IsParameterSegment segment) :
    pathType (pathParameterType? context operation) path =
      "`/" ++ String.intercalate "/"
        (((pathSegments path).map (segmentPart context operation)).map TemplatePart.text) ++
          "`" := by
  rcases some with ⟨segment, listed, name, filled, same⟩
  rw [pathType_eq, if_pos]
  refine List.any_eq_true.mpr ⟨_, List.mem_map_of_mem listed, ?_⟩
  rw [isSome_type?_segmentPart, (segmentParameter?_eq_some_iff segment name).mpr ⟨filled, same⟩]
  rfl

/-- A declared parameter is found by its name. -/
theorem exists_pathParameter {operation : Operation} {name : String} {parameter : Parameter}
    (declared : parameter ∈ operation.parametersAt .path) (named : parameter.name = name) :
    ∃ last, operation.pathParameter? name = some last := by
  refine Option.isSome_iff_exists.mp (List.find?_isSome.mpr ⟨parameter, ?_, ?_⟩)
  · exact List.mem_reverse.mpr declared
  · exact beq_iff_eq.mpr named

/-- The interpolated types are those of the segments that are in braces, in order. -/
theorem filterMap_type?_segmentParts (context : TypeScript.TypeContext) (operation : Operation)
    (segments : List (List Char)) :
    (segments.map (segmentPart context operation)).filterMap TemplatePart.type? =
      (segments.flatMap segmentExpressions).map (expressionType context operation) := by
  rw [List.filterMap_map, List.map_flatMap, List.filterMap_eq_flatMap_toList]
  refine List.flatMap_congr fun segment _ => ?_
  rw [Function.comp_apply, segmentPart, segmentExpressions]
  cases segmentParameter? segment <;> rfl

/-- Every segment of a path has its part in the type of the path: an expression is an
interpolation of its type, and a segment without braces around it is fixed text.  Where all
expressions are whole segments, the interpolations are those of the expressions, in order.  An
expression with a declared parameter has the type of the last one of its name. -/
theorem pathType_interpolates (settings : Settings) (siblings : Siblings) (endpoint : Endpoint) :
    (Exists fun parts : List TemplatePart =>
      List.Forall₂ (BecomesPart (siblingContext settings siblings.schemas) endpoint.operation)
          (pathSegments endpoint.path) parts ∧
        (descriptor settings siblings endpoint).pathType =
          (if parts.any (·.type?.isSome) then
            "`/" ++ String.intercalate "/" (parts.map TemplatePart.text) ++ "`"
          else
            Naming.singleQuoted
              ("/" ++ String.intercalate "/" ((pathSegments endpoint.path).map String.ofList))) ∧
        ((∀ segment ∈ pathSegments endpoint.path, IsWhole segment) ->
          parts.filterMap TemplatePart.type? =
            (pathExpressions endpoint.path).map
              (expressionType (siblingContext settings siblings.schemas) endpoint.operation))) ∧
      forall (name : List Char) (parameter : Parameter),
        parameter ∈ endpoint.operation.parametersAt .path ->
          parameter.name = String.ofList name ->
            ∃ last, DeclaresLast endpoint.operation.inPlace (String.ofList name) last ∧
              expressionType (siblingContext settings siblings.schemas) endpoint.operation name =
                TypeScript.typeText (siblingContext settings siblings.schemas)
                  (last.schema.getD .unknown) := by
  constructor
  · refine ⟨(pathSegments endpoint.path).map (segmentPart _ endpoint.operation), ?_,
      pathType_eq _ _ _, ?_⟩
    · rw [List.forall₂_map_right_iff, List.forall₂_same]
      exact fun segment _ => becomesPart_segmentPart _ _ segment
    · intro whole
      rw [pathExpressions_eq whole]
      exact filterMap_type?_segmentParts _ _ _
  · intro name parameter declared named
    rcases exists_pathParameter declared named with ⟨last, found⟩
    refine ⟨last, (lastDeclaration?_eq_some_iff ..).mp found, ?_⟩
    rw [expressionType, found]

/-- An operation with one parameter in its path, whose type is a string. -/
def namedEndpoint (path name : String) : Endpoint :=
  ⟨.get, path, ⟨none, some [.inline ⟨name, .path, true, some (.primitive .string none)⟩], none,
    .empty⟩⟩

/-- A path with one expression that has a parameter, and one that has none. -/
theorem pathType_interpolates_declaredAndNot :
    Exists fun parts : List TemplatePart =>
      parts.filterMap TemplatePart.type? = ["string", "never"] ∧
        (descriptor {} ⟨false, false⟩
            (namedEndpoint "/files/\x7bname\x7d/$/\x7brest\x7d" "name")).pathType =
          "`/" ++ String.intercalate "/" (parts.map TemplatePart.text) ++ "`" := by
  let endpoint := namedEndpoint "/files/\x7bname\x7d/$/\x7brest\x7d" "name"
  have segments : pathSegments endpoint.path =
      ["files".toList, braced "name".toList, "$".toList, braced "rest".toList] := by decide
  have whole : ∀ segment ∈ pathSegments endpoint.path, IsWhole segment := by
    rw [segments]
    simp only [List.forall_mem_cons]
    exact ⟨.inl (by decide), .inr ⟨_, by decide, rfl⟩, .inl (by decide), .inr ⟨_, by decide, rfl⟩,
      nofun⟩
  have types : (pathExpressions endpoint.path).map
      (expressionType (siblingContext {} false) endpoint.operation) = ["string", "never"] := by
    decide
  rcases pathType_interpolates {} ⟨false, false⟩ endpoint with ⟨⟨parts, _, text, order⟩, _⟩
  have interpolated := (order whole).trans types
  refine ⟨parts, interpolated, text.trans (if_pos ?_)⟩
  by_contra without
  rw [Bool.not_eq_true, List.any_eq_false] at without
  have none : parts.filterMap TemplatePart.type? = [] :=
    List.filterMap_eq_nil_iff.mpr fun part listed =>
      Option.not_isSome_iff_eq_none.mp (without part listed)
  rw [none] at interpolated
  cases interpolated

/-- An expression that stands beside other text in its segment is written as it stands, and
nothing is interpolated for its parameter. -/
theorem pathType_sharedSegment :
    pathExpressions "/report.\x7bformat\x7d" = ["format".toList] ∧
      (descriptor {} ⟨false, false⟩ (namedEndpoint "/report.\x7bformat\x7d" "format")).pathType =
        "'/report.\x7bformat\x7d'" ∧
      ¬Text.Occurs "$\x7bstring\x7d" "'/report.\x7bformat\x7d'" := by
  refine ⟨by decide, by decide, fun occurs => ?_⟩
  have dollar : '$' ∈ "'/report.\x7bformat\x7d'".toList := occurs.subset (by decide)
  exact absurd dollar (by decide)

end Modules
end OpenApiTypes
