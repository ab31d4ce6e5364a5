import OpenApiTypes.Proofs.Modules.PathParts
import OpenApiTypes.Proofs.Naming.Quoted

namespace OpenApiTypes
namespace Modules

/-!
# What the text of a path type says

The text of a path type is a literal, and what the literal says is the path.  A path without
parameters is between single quotes and is read back as it is.  Otherwise the text is a
template literal.  Reading it stops at the last backtick, and meets an interpolation for each
parameter segment and nowhere else; what remains without the interpolations are the segments,
each of them escaped, with the slashes between them.

Escapes are looked at one segment at a time.  That no two segments form something between them
is due to the slash, which cannot go on with what an interpolation begins with.
-/

/-! ## Unescaped text -/

/-- The pattern stands somewhere in the text, and no backslash takes its first character. -/
inductive Unescaped (pattern : List Char) : List Char -> Prop
  | here {text : List Char} (found : pattern <+: text) : Unescaped pattern text
  | later {character : Char} {rest : List Char} (ordinary : character ≠ '\\')
      (found : Unescaped pattern rest) : Unescaped pattern (character :: rest)
  | taken {character : Char} {rest : List Char} (found : Unescaped pattern rest) :
      Unescaped pattern ('\\' :: character :: rest)

/-- The characters that begin an interpolation. -/
def opening : List Char := ['$', '{']

theorem opening_isPrefix_cons_iff (character : Char) (rest : List Char) :
    opening <+: character :: rest ↔ character = '$' ∧ rest.head? = some '{' := by
  rw [opening, List.cons_prefix_cons, List.head?_eq_some_iff, eq_comm]
  exact and_congr_right fun _ => ⟨fun ⟨tail, same⟩ => ⟨tail, same.symm⟩,
    fun ⟨tail, same⟩ => ⟨tail, same.symm⟩⟩

/-- A character that stands in fixed text by itself: it takes no other character, does not end
the literal, and does not begin an interpolation with what follows. -/
structure IsOrdinary (character : Char) (rest : List Char) : Prop where
  taking : character ≠ '\\'
  closing : character ≠ '`'
  opening : ¬opening <+: character :: rest

theorem isOrdinary_slash (rest : List Char) : IsOrdinary '/' rest :=
  ⟨by decide, by decide, fun opens =>
    absurd ((opening_isPrefix_cons_iff ..).mp opens).1 (by decide)⟩

theorem IsOrdinary.append {character : Char} {written rest : List Char}
    (ordinary : IsOrdinary character written) (apart : rest.head? ≠ some '{') :
    IsOrdinary character (written ++ rest) where
  taking := ordinary.taking
  closing := ordinary.closing
  opening := by
    intro opens
    rw [opening_isPrefix_cons_iff] at opens
    cases written with
    | nil => exact apart opens.2
    | cons next written =>
        exact ordinary.opening ((opening_isPrefix_cons_iff ..).mpr opens)

/-- Fixed text with what it says: characters by themselves, and characters that a backslash
takes. -/
inductive IsFixed : List Char -> List Char -> Prop
  | nil : IsFixed [] []
  | ordinary {character : Char} {written said : List Char}
      (ordinary : IsOrdinary character written) (later : IsFixed written said) :
      IsFixed (character :: written) (character :: said)
  | taken {character : Char} {written said : List Char} (later : IsFixed written said) :
      IsFixed ('\\' :: character :: written) (character :: said)

theorem isFixed_of_readFixed? {written said : List Char}
    (reads : readFixed? written = some said) : IsFixed written said := by
  fun_induction readFixed? written generalizing said with
  | case1 =>
      cases reads
      exact .nil
  | case2 taken rest inductionHypothesis =>
      rcases Option.map_eq_some_iff.mp reads with ⟨later, read, rfl⟩
      exact .taken (inductionHypothesis read)
  | case3 => cases reads
  | case4 => cases reads
  | case5 => cases reads
  | case6 character rest takes alone closes opens inductionHypothesis =>
      rcases Option.map_eq_some_iff.mp reads with ⟨later, read, rfl⟩
      refine .ordinary ⟨?_, closes, ?_⟩ (inductionHypothesis read)
      · rintro rfl
        cases rest with
        | nil => exact alone rfl rfl
        | cons next rest => exact takes next rest rfl rfl
      · intro begins
        rcases (opening_isPrefix_cons_iff ..).mp begins with ⟨dollar, head⟩
        rcases List.head?_eq_some_iff.mp head with ⟨tail, same⟩
        exact opens tail dollar same

namespace IsFixed

variable {written said : List Char}

/-- Fixed texts can be put together where the second one does not begin with a brace. -/
theorem append (fixed : IsFixed written said) {more further : List Char}
    (others : IsFixed more further) (apart : more.head? ≠ some '{') :
    IsFixed (written ++ more) (said ++ further) := by
  induction fixed with
  | nil => exact others
  | ordinary ordinary _ inductionHypothesis =>
      exact .ordinary (ordinary.append apart) inductionHypothesis
  | taken _ inductionHypothesis => exact .taken inductionHypothesis

/-- Every character of fixed text is said, except for backslashes. -/
theorem mem_of_mem (fixed : IsFixed written said) {character : Char}
    (member : character ∈ written) (different : character ≠ '\\') : character ∈ said := by
  induction fixed with
  | nil => cases member
  | ordinary _ _ inductionHypothesis =>
      rcases List.mem_cons.mp member with rfl | later
      · exact List.mem_cons_self
      · exact List.mem_cons_of_mem _ (inductionHypothesis later)
  | taken _ inductionHypothesis =>
      rcases List.mem_cons.mp member with rfl | later
      · exact absurd rfl different
      · rcases List.mem_cons.mp later with rfl | later
        · exact List.mem_cons_self
        · exact List.mem_cons_of_mem _ (inductionHypothesis later)

/-- What no ordinary character begins stands nowhere in fixed text unescaped. -/
theorem not_unescaped (fixed : IsFixed written said) {pattern : List Char} (filled : pattern ≠ [])
    (backslash : forall rest : List Char, ¬pattern <+: '\\' :: rest)
    (ordinary : forall (character : Char) (rest : List Char),
      IsOrdinary character rest -> ¬pattern <+: character :: rest) :
    ¬Unescaped pattern written := by
  intro stands
  induction fixed with
  | nil =>
      cases stands with
      | here found => exact filled (List.prefix_nil.mp found)
  | ordinary alone _ inductionHypothesis =>
      cases stands with
      | here found => exact ordinary _ _ alone found
      | later _ found => exact inductionHypothesis found
      | taken _ => exact alone.taking rfl
  | taken _ inductionHypothesis =>
      cases stands with
      | here found => exact backslash _ found
      | later alone _ => exact alone rfl
      | taken found => exact inductionHypothesis found

theorem not_unescaped_backtick (fixed : IsFixed written said) : ¬Unescaped ['`'] written := by
  refine fixed.not_unescaped (List.cons_ne_nil _ _) (fun rest found => ?_)
    (fun character rest alone found => ?_)
  · cases (List.cons_prefix_cons.mp found).1
  · exact alone.closing (List.cons_prefix_cons.mp found).1.symm

theorem not_unescaped_opening (fixed : IsFixed written said) : ¬Unescaped opening written := by
  refine fixed.not_unescaped (List.cons_ne_nil _ _) (fun rest found => ?_)
    (fun character rest alone found => alone.opening found)
  exact absurd ((opening_isPrefix_cons_iff ..).mp found).1 (by decide)

end IsFixed

/-! ## Reading a template literal -/

/-- A template literal is read from behind its opening backtick.  A backslash takes the next
character.  The first backtick that none takes is the last character.  At the first `${` that
none takes, the next of the types stands up to a closing brace, and is taken out.  The last
list is what remains. -/
inductive ReadsTemplate : List String -> List Char -> List Char -> Prop
  | closing : ReadsTemplate [] ['`'] []
  | ordinary {types : List String} {character : Char} {rest literal : List Char}
      (ordinary : IsOrdinary character rest) (later : ReadsTemplate types rest literal) :
      ReadsTemplate types (character :: rest) (character :: literal)
  | taken {types : List String} {character : Char} {rest literal : List Char}
      (later : ReadsTemplate types rest literal) :
      ReadsTemplate types ('\\' :: character :: rest) ('\\' :: character :: literal)
  | interpolation {type : String} {types : List String} {rest literal : List Char}
      (later : ReadsTemplate types rest literal) :
      ReadsTemplate (type :: types) (opening ++ (type.toList ++ '}' :: rest)) literal

theorem ReadsTemplate.append {types : List String} {rest literal : List Char}
    (later : ReadsTemplate types rest literal) (apart : rest.head? ≠ some '{')
    {written said : List Char} (fixed : IsFixed written said) :
    ReadsTemplate types (written ++ rest) (written ++ literal) := by
  induction fixed with
  | nil => exact later
  | ordinary ordinary _ inductionHypothesis =>
      exact .ordinary (ordinary.append apart) inductionHypothesis
  | taken _ inductionHypothesis => exact .taken inductionHypothesis

/-! ## Parts -/

/-- What remains of a part without its interpolation. -/
def TemplatePart.literal : TemplatePart -> List Char
  | .fixed written => written
  | .interpolation _ => []

/-- What becomes of a segment: an interpolation for a parameter, and otherwise fixed text that
says the segment. -/
structure BecomesText (segment : List Char) (part : TemplatePart) : Prop where
  parameter : IsParameterSegment segment ->
    Exists fun type : String => part = .interpolation type
  fixed : ¬IsParameterSegment segment ->
    Exists fun written : List Char => part = .fixed written ∧ readFixed? written = some segment

theorem becomesText_segmentPart (context : TypeScript.TypeContext) (operation : Operation)
    (segment : List Char) : BecomesText segment (segmentPart context operation segment) where
  parameter := by
    rintro ⟨name, filled, same⟩
    rw [segmentPart, (segmentParameter?_eq_some_iff segment name).mpr ⟨filled, same⟩]
    exact ⟨_, rfl⟩
  fixed := by
    intro bare
    refine (becomesPart_segmentPart context operation segment).fixed fun inner filled same => ?_
    exact bare ⟨inner, filled, same⟩

theorem BecomesText.cases {segment : List Char} {part : TemplatePart}
    (becomes : BecomesText segment part) :
    (Exists fun type : String => part = .interpolation type) ∨
      Exists fun written : List Char => part = .fixed written ∧ IsFixed written segment := by
  by_cases parameter : IsParameterSegment segment
  · exact .inl (becomes.parameter parameter)
  · rcases becomes.fixed parameter with ⟨written, same, reads⟩
    exact .inr ⟨written, same, isFixed_of_readFixed? reads⟩

/-- Texts with a slash in front of each of them. -/
def slashed (texts : List (List Char)) : List Char :=
  texts.flatMap ('/' :: ·)

theorem slashed_cons (text : List Char) (texts : List (List Char)) :
    slashed (text :: texts) = '/' :: (text ++ slashed texts) := rfl

theorem head?_slashed_append_ne (texts : List (List Char)) {rest : List Char}
    (apart : rest.head? ≠ some '{') : (slashed texts ++ rest).head? ≠ some '{' := by
  cases texts with
  | nil => exact apart
  | cons text texts =>
      rw [slashed_cons, List.cons_append, List.head?_cons]
      decide

theorem head?_slashed_ne (texts : List (List Char)) : (slashed texts).head? ≠ some '{' := by
  rw [← List.append_nil (slashed texts)]
  exact head?_slashed_append_ne texts nofun

/-- A template literal of parts, as characters. -/
theorem toList_template {parts : List TemplatePart} (filled : parts ≠ []) :
    ("`/" ++ String.intercalate "/" (parts.map TemplatePart.text) ++ "`").toList =
      '`' :: (slashed (parts.map fun part => part.text.toList) ++ ['`']) := by
  cases parts with
  | nil => exact absurd rfl filled
  | cons first more =>
      have start : "`/".toList = ['`', '/'] := rfl
      have slash : "/".toList = ['/'] := rfl
      have finish : "`".toList = ['`'] := rfl
      rw [String.toList_append, String.toList_append, start, finish, List.map_cons, List.map_cons,
        TypeScript.toList_intercalate_cons, slash, slashed_cons, slashed, List.flatMap_map,
        List.flatMap_map]
      rfl

section Parts

variable {segments : List (List Char)} {parts : List TemplatePart}
  (each : List.Forall₂ BecomesText segments parts)

include each

/-- What remains of the parts is fixed text. -/
theorem exists_isFixed_literals :
    Exists fun said : List Char => IsFixed (slashed (parts.map TemplatePart.literal)) said := by
  induction each with
  | nil => exact ⟨[], .nil⟩
  | @cons segment part segments parts becomes _ inductionHypothesis =>
      rcases inductionHypothesis with ⟨said, later⟩
      rw [List.map_cons, slashed_cons]
      rcases becomes.cases with ⟨type, rfl⟩ | ⟨written, rfl, fixed⟩
      · exact ⟨_, .ordinary (isOrdinary_slash _) later⟩
      · exact ⟨_, .ordinary (isOrdinary_slash _) (fixed.append later (head?_slashed_ne _))⟩

/-- Reading finds the interpolations of the parts, and what remains are their literals. -/
theorem readsTemplate_parts :
    ReadsTemplate (parts.filterMap TemplatePart.type?)
      (slashed (parts.map fun part => part.text.toList) ++ ['`'])
      (slashed (parts.map TemplatePart.literal)) := by
  induction each with
  | nil => exact .closing
  | @cons segment part segments parts becomes _ later =>
      rw [List.map_cons, List.map_cons, slashed_cons, slashed_cons, List.cons_append,
        List.append_assoc]
      refine .ordinary (isOrdinary_slash _) ?_
      rcases becomes.cases with ⟨type, rfl⟩ | ⟨written, rfl, fixed⟩
      · have text : (TemplatePart.interpolation type).text.toList =
            opening ++ (type.toList ++ ['}']) := by
          have opens : "$\x7b".toList = opening := rfl
          have closes : "\x7d".toList = ['}'] := rfl
          rw [TemplatePart.text, String.toList_append, String.toList_append, opens, closes,
            List.append_assoc]
        rw [text, List.append_assoc, List.append_assoc]
        exact .interpolation later
      · have text : (TemplatePart.fixed written).text.toList = written := String.toList_ofList
        rw [text]
        exact later.append (head?_slashed_append_ne _ (by decide)) fixed

/-- What remains of the parts is cut at its slashes into what remains of each of them. -/
theorem splitAt_literals (within : ∀ segment ∈ segments, '/' ∉ segment) :
    Text.splitAt '/' (slashed (parts.map TemplatePart.literal)) =
      [] :: parts.map TemplatePart.literal := by
  suffices absent : ∀ piece ∈ [] :: parts.map TemplatePart.literal, '/' ∉ piece by
    exact Text.splitAt_append_flatMap absent
  rw [List.forall_mem_cons, List.forall_mem_map]
  refine ⟨List.not_mem_nil, ?_⟩
  induction each with
  | nil => exact nofun
  | cons becomes _ inductionHypothesis =>
      rw [List.forall_mem_cons] at within ⊢
      refine ⟨fun member => ?_, inductionHypothesis within.2⟩
      rcases becomes.cases with ⟨type, rfl⟩ | ⟨written, rfl, fixed⟩
      · cases member
      · exact within.1 (fixed.mem_of_mem member (by decide))

end Parts

/-! ## Path types -/

/-- The text of a path type says the path.  Without a parameter segment it is one quoted
literal, read back as a slash and the path without one leading slash.  With one it is a template
literal that is read to its last backtick: an interpolation is met for each parameter segment,
what remains holds no unescaped backtick and no unescaped beginning of an interpolation, and is
cut at its slashes into what remains of each segment, which for a segment without braces around
it says the segment. -/
theorem pathType_denotes (settings : Settings) (siblings : Siblings) (endpoint : Endpoint) :
    ((∀ segment ∈ pathSegments endpoint.path, ¬IsParameterSegment segment) ->
      Exists fun quoted : List Char =>
        (descriptor settings siblings endpoint).pathType.toList = '\'' :: quoted ∧
          Naming.unquote? quoted =
            some ('/' :: withoutLeadingSlash endpoint.path.toList, [])) ∧
    ((∃ segment ∈ pathSegments endpoint.path, IsParameterSegment segment) ->
      Exists fun parts : List TemplatePart => Exists fun inner : List Char =>
        Exists fun literal : List Char =>
          List.Forall₂ BecomesText (pathSegments endpoint.path) parts ∧
          (descriptor settings siblings endpoint).pathType.toList = '`' :: inner ∧
          ReadsTemplate (parts.filterMap TemplatePart.type?) inner literal ∧
          ¬Unescaped ['`'] literal ∧ ¬Unescaped opening literal ∧
          Text.splitAt '/' literal = [] :: parts.map TemplatePart.literal) := by
  let context := siblingContext settings siblings.schemas
  constructor
  · intro none
    refine ⟨_, (congrArg String.toList (pathType_of_none context endpoint.operation none)).trans
      (Naming.toList_singleQuoted _), ?_⟩
    have slash : "/".toList = ['/'] := rfl
    rw [Naming.unquote?_escapeChars, String.toList_append, slash, String.toList_ofList,
      List.singleton_append]
  · intro some
    let parts := (pathSegments endpoint.path).map (segmentPart context endpoint.operation)
    have each : List.Forall₂ BecomesText (pathSegments endpoint.path) parts := by
      rw [List.forall₂_map_right_iff, List.forall₂_same]
      exact fun segment _ => becomesText_segmentPart context endpoint.operation segment
    have filled : parts ≠ [] := by
      rcases some with ⟨segment, listed, _⟩
      exact List.map_eq_nil_iff.not.mpr (List.ne_nil_of_mem listed)
    rcases exists_isFixed_literals each with ⟨said, fixed⟩
    refine ⟨parts, _, _, each, ?_, readsTemplate_parts each, fixed.not_unescaped_backtick,
      fixed.not_unescaped_opening, splitAt_literals each fun segment => Text.not_mem_of_mem_splitAt⟩
    exact (congrArg String.toList (pathType_of_some context endpoint.operation some)).trans
      (toList_template filled)

/-- A quote and a backslash in a path without parameters, and a backslash, a backtick and the
beginning of an interpolation beside a parameter. -/
theorem pathType_denotes_escaped :
    (Exists fun quoted : List Char =>
      (descriptor {} ⟨false, false⟩ (namedEndpoint "/it's\\" "id")).pathType.toList =
          '\'' :: quoted ∧
        Naming.unquote? quoted = some ("/it's\\".toList, [])) ∧
      Exists fun types : List String => Exists fun inner : List Char =>
        Exists fun literal : List Char =>
          (descriptor {} ⟨false, false⟩
              (namedEndpoint "/\x7bid\x7d/\\`$\x7b" "id")).pathType.toList = '`' :: inner ∧
            ReadsTemplate types inner literal ∧ ¬Unescaped ['`'] literal ∧
            ¬Unescaped opening literal := by
  refine ⟨(pathType_denotes {} ⟨false, false⟩ (namedEndpoint "/it's\\" "id")).1 ?_, ?_⟩
  · have segments : pathSegments (namedEndpoint "/it's\\" "id").path = ["it's\\".toList] := by
      decide
    rw [segments]
    rintro segment listed ⟨name, _, same⟩
    rw [List.mem_singleton.mp listed] at same
    cases same
  · have parameter : ∃ segment ∈ pathSegments (namedEndpoint "/\x7bid\x7d/\\`$\x7b" "id").path,
        IsParameterSegment segment :=
      ⟨braced "id".toList, by decide, "id".toList, by decide, rfl⟩
    rcases (pathType_denotes {} ⟨false, false⟩ (namedEndpoint "/\x7bid\x7d/\\`$\x7b" "id")).2
      parameter with ⟨parts, inner, literal, _, text, reads, backtick, opens, _⟩
    exact ⟨_, inner, literal, text, reads, backtick, opens⟩

end Modules
end OpenApiTypes
