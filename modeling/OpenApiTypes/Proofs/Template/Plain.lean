import OpenApiTypes.Proofs.Template.Variables
import OpenApiTypes.Template.Render
import OpenApiTypes.Template.Source

namespace OpenApiTypes
namespace Template

/-!
# Templates of texts and variables

The simplest templates write texts with the values of variables between them.  Such a
template is read as exactly these texts and variables, and rendering it puts the text of
each value in its place.  Values come in after the template has been read, so nothing in
them is read as template text.  Only the name of the template decides whether they are
escaped.
-/

/-! ## Plain text -/

/-- The text opens nothing, also not together with an opening delimiter behind it. -/
def IsPlain (text : List Char) : Prop :=
  plainText text = (text, []) ∧ text.getLast? ≠ some '\x7b'

instance (text : List Char) : Decidable (IsPlain text) :=
  inferInstanceAs (Decidable (_ ∧ _))

/-- Whether something opens depends on two characters. -/
theorem opening?_eq_none_iff (first : Char) (rest : List Char) :
    opening? (first :: rest) = none ↔
      first ≠ '\x7b' ∨ ∀ second ∈ rest.head?, second ∉ ['\x7b', '%', '#'] := by
  constructor
  · intro unopened
    by_cases brace : first = '\x7b'
    · subst brace
      refine .inr (fun second head member => ?_)
      cases rest with
      | nil => cases head
      | cons next rest =>
          cases head
          simp only [List.mem_cons, List.not_mem_nil, or_false] at member
          rcases member with rfl | rfl | rfl <;> simp only [opening?] at unopened <;>
            split at unopened <;> cases unopened
    · exact .inl brace
  · intro closed
    unfold opening?
    dsimp only
    split
    next same => cases same; simp at closed
    next same => cases same; simp at closed
    next same => cases same; simp at closed
    next => rfl

/-- A plain text ends where nothing or an opening delimiter follows. -/
theorem plainText_append {text rest : List Char} (plain : IsPlain text)
    (ends : plainText rest = ([], rest)) : plainText (text ++ rest) = (text, rest) := by
  induction text with
  | nil => exact ends
  | cons character text inductionHypothesis =>
      obtain ⟨unopened, last⟩ := plain
      rw [plainText] at unopened
      split at unopened
      next => cases unopened
      next closed =>
        have later : plainText text = (text, []) := by
          simp only [Prod.mk.injEq, List.cons.injEq, true_and] at unopened
          exact Prod.ext unopened.1 unopened.2
        have stillClosed : opening? (character :: (text ++ rest)) = none := by
          rw [opening?_eq_none_iff] at closed ⊢
          cases text with
          | nil => exact .inl (fun brace => last (congrArg some brace))
          | cons second text => exact closed
        have laterLast : text.getLast? ≠ some '\x7b' := by
          cases text with
          | nil => exact (nomatch ·)
          | cons second text => rwa [List.getLast?_cons_cons] at last
        rw [List.cons_append, plainText, stillClosed, inductionHypothesis ⟨later, laterLast⟩]

/-- Where text is cut off, nothing opens at its beginning. -/
theorem opening?_of_plainText {first : Char} {rest run left : List Char}
    (cut : plainText (first :: rest) = (run, left)) (some : run ≠ []) :
    opening? (first :: rest) = none := by
  rw [plainText] at cut
  split at cut
  next => cases cut; exact absurd rfl some
  next closed => exact closed

/-! ## Plain templates -/

/-- A text, and variables with the texts behind them. -/
structure PlainTemplate where
  start : String
  /-- The variables, each with the text up to the next one. -/
  places : List (String × String)
  start_isPlain : IsPlain start.toList
  places_arePlain : ∀ place ∈ places, IsVariable place.1.toList ∧ IsPlain place.2.toList

namespace PlainTemplate

/-- A variable and its text in the template's source. -/
def placeSource (place : String × String) : String :=
  "\x7b\x7b " ++ place.1 ++ " \x7d\x7d" ++ place.2

/-- The template as it is written. -/
def source (template : PlainTemplate) : String :=
  template.start ++ String.join (template.places.map placeSource)

/-- A text as a part of a template; an empty text is none. -/
def textNodes (text : String) : List Node :=
  if text.isEmpty then [] else [.text text]

/-- A variable and its text as parts of a template. -/
def placeNodes (place : String × String) : List Node :=
  .print (.named place.1) :: textNodes place.2

/-- The parts as which the template is read. -/
def nodes (template : PlainTemplate) : List Node :=
  textNodes template.start ++ template.places.flatMap placeNodes

/-- The template with a text for each variable. -/
def filled (template : PlainTemplate) (value : String -> String) : String :=
  template.start ++ String.join (template.places.map (fun place => value place.1 ++ place.2))

end PlainTemplate

open PlainTemplate

/-! ## Reading -/

/-- A piece whose delimiters have no dash. -/
def undashed (content : Content) : Piece :=
  ⟨false, content, false⟩

/-- What is read as a part; the parts that write nothing are left out. -/
def nodeContent : Node -> Content
  | .text content => .text content.toList
  | .print value => .print value
  | _ => .silent

/-- The part is a text or a value. -/
def IsWriting : Node -> Prop
  | .text _ => True
  | .print _ => True
  | _ => False

/-- Without dashes nothing is trimmed. -/
theorem trimPieces_undashed (contents : List Content) :
    trimPieces false (contents.map undashed) = contents := by
  induction contents with
  | nil => rfl
  | cons content contents inductionHypothesis =>
      have untrimmed : nextTrims (contents.map undashed) = false := by
        cases contents <;> rfl
      rw [List.map_cons, trimPieces, untrimmed]
      cases content <;> exact congrArg (List.cons _) inductionHypothesis

/-- Texts and values are parts of the template one by one. -/
theorem gather_nodes {nodes : List Node} (writing : ∀ node ∈ nodes, IsWriting node)
    (parts : List Node) :
    gather [] parts (nodes.map nodeContent) = some (parts.reverse ++ nodes) := by
  induction nodes generalizing parts with
  | nil => simp [gather]
  | cons node nodes inductionHypothesis =>
      rw [List.forall_mem_cons] at writing
      obtain ⟨first, later⟩ := writing
      cases node with
      | text content => simp [gather, nodeContent, inductionHypothesis later]
      | print value => simp [gather, nodeContent, inductionHypothesis later]
      | assign name value => exact first.elim
      | choose branches otherwise => exact first.elim

/-- The characters of variables and their texts. -/
def placesChars (places : List (String × String)) : List Char :=
  places.flatMap (fun place =>
    '\x7b' :: '\x7b' :: ' ' :: (place.1.toList ++ blankClosing ('\x7d' :: place.2.toList)))

theorem PlainTemplate.toList_source (template : PlainTemplate) :
    template.source.toList = template.start.toList ++ placesChars template.places := by
  have one (place : String × String) : (placeSource place).toList =
      '\x7b' :: '\x7b' :: ' ' :: (place.1.toList ++ blankClosing ('\x7d' :: place.2.toList)) := by
    have opens : "\x7b\x7b ".toList = ['\x7b', '\x7b', ' '] := rfl
    have closes : " \x7d\x7d".toList = [' ', '\x7d', '\x7d'] := rfl
    simp [placeSource, opens, closes, blankClosing]
  rw [source, String.toList_append, String.toList_join, List.flatMap_map]
  simp only [one, placesChars]

/-- The pieces that are read as the parts. -/
def nodePieces (nodes : List Node) : List Piece :=
  (nodes.map nodeContent).map undashed

/-- Characters are cut into the pieces of the parts as soon as there is fuel for each of
them. -/
def CutsInto (characters : List Char) (nodes : List Node) : Prop :=
  forall fuel : Nat, characters.length < fuel -> pieces? fuel characters = some (nodePieces nodes)

theorem cutsInto_text {text : String} {rest : List Char} {nodes : List Node}
    (plain : IsPlain text.toList) (ends : plainText rest = ([], rest))
    (later : CutsInto rest nodes) :
    CutsInto (text.toList ++ rest) (textNodes text ++ nodes) := by
  have cut : plainText (text.toList ++ rest) = (text.toList, rest) := plainText_append plain ends
  cases characters : text.toList with
  | nil =>
      have nothing : textNodes text = [] := by
        rw [textNodes, if_pos (String.isEmpty_iff.mpr (String.toList_eq_nil_iff.mp characters))]
      rwa [nothing]
  | cons first others =>
      have written : textNodes text = [.text text] := by
        rw [textNodes, if_neg]
        intro empty
        rw [String.isEmpty_iff.mp empty] at characters
        cases characters
      rw [characters, List.cons_append] at cut
      intro fuel enough
      cases fuel with
      | zero => cases enough
      | succ fuel =>
          have remaining : pieces? fuel rest = some (nodePieces nodes) := by
            refine later fuel ?_
            rw [List.length_append, List.length_cons] at enough
            omega
          rw [pieces?.eq_def, List.cons_append]
          dsimp only
          rw [opening?_of_plainText cut (List.cons_ne_nil _ _), cut]
          dsimp only
          rw [remaining, written, ← characters]
          rfl

theorem cutsInto_place {name : String} {rest : List Char} {nodes : List Node}
    (isVariable : IsVariable name.toList) (later : CutsInto rest nodes) :
    CutsInto ('\x7b' :: '\x7b' :: ' ' :: (name.toList ++ blankClosing ('\x7d' :: rest)))
      (.print (.named name) :: nodes) := by
  intro fuel enough
  cases fuel with
  | zero => cases enough
  | succ fuel =>
      have opens : opening? ('\x7b' :: '\x7b' :: ' ' ::
          (name.toList ++ blankClosing ('\x7d' :: rest))) =
        some (.value, false, ' ' :: (name.toList ++ blankClosing ('\x7d' :: rest))) := rfl
      have closes : closing? "\x7d\x7d" (blankClosing ('\x7d' :: rest)) = some (false, rest) := rfl
      have others : pieces? fuel rest = some (nodePieces nodes) := by
        refine later fuel ?_
        simp only [List.length_cons, List.length_append, blankClosing] at enough
        omega
      rw [pieces?.eq_def]
      dsimp only
      rw [opens]
      dsimp only
      rw [expression?_variable isVariable]
      simp only [Option.bind_eq_bind, Option.bind_some]
      rw [closes]
      simp only [Option.bind_some]
      rw [others, String.ofList_toList]
      rfl

theorem plainText_placesChars (places : List (String × String)) :
    plainText (placesChars places) = ([], placesChars places) := by
  cases places with
  | nil => rfl
  | cons place places => rfl

theorem cutsInto_places {places : List (String × String)}
    (plain : ∀ place ∈ places, IsVariable place.1.toList ∧ IsPlain place.2.toList) :
    CutsInto (placesChars places) (places.flatMap placeNodes) := by
  induction places with
  | nil => exact fun fuel _ => by cases fuel <;> rfl
  | cons place places inductionHypothesis =>
      rw [List.forall_mem_cons] at plain
      obtain ⟨⟨isVariable, text⟩, later⟩ := plain
      have after := cutsInto_text text (plainText_placesChars places) (inductionHypothesis later)
      have whole := cutsInto_place isVariable after
      simpa [placesChars, placeNodes, blankClosing] using whole

theorem isWriting_of_mem_textNodes {text : String} {node : Node} (member : node ∈ textNodes text) :
    IsWriting node := by
  rw [textNodes] at member
  split at member
  next => cases member
  next => rw [List.mem_singleton.mp member]; trivial

theorem PlainTemplate.isWriting_of_mem_nodes (template : PlainTemplate) :
    ∀ node ∈ template.nodes, IsWriting node := by
  intro node member
  rcases List.mem_append.mp member with atStart | atPlace
  · exact isWriting_of_mem_textNodes atStart
  · obtain ⟨place, _, member⟩ := List.mem_flatMap.mp atPlace
    rcases List.mem_cons.mp member with rfl | behind
    · trivial
    · exact isWriting_of_mem_textNodes behind

/-- A plain template is read as its texts and variables. -/
theorem PlainTemplate.parse?_source (template : PlainTemplate) :
    parse? template.source = some template.nodes := by
  have cuts : CutsInto template.source.toList template.nodes := by
    rw [toList_source]
    exact cutsInto_text template.start_isPlain (plainText_placesChars _)
      (cutsInto_places template.places_arePlain)
  rw [parse?, cuts _ (Nat.lt_succ_self _)]
  simp only [Option.bind_eq_bind, Option.bind_some]
  rw [nodePieces, trimPieces_undashed, gather_nodes template.isWriting_of_mem_nodes]
  rfl

/-! ## Rendering -/

/-- The text of a variable, in markup or not. -/
def valueText (markup : Bool) (bindings : Bindings) (name : String) : String :=
  ((List.lookup name bindings).map (printed markup (.named name))).getD ""

/-- The variable has a value. -/
def IsBound (bindings : Bindings) (name : String) : Prop :=
  (List.lookup name bindings).isSome

variable (markup : Bool)

theorem renderNodes_append (progress : Progress) (first second : List Node) :
    renderNodes markup progress (first ++ second) =
      (renderNodes markup progress first).bind
        (fun after => renderNodes markup after second) := by
  induction first generalizing progress with
  | nil => rfl
  | cons node first inductionHypothesis =>
      rw [List.cons_append, renderNodes, renderNodes]
      cases renderNode markup progress node with
      | error error => rfl
      | ok after => exact inductionHypothesis after

theorem renderNodes_textNodes (before : String) (bindings : Bindings) (text : String) :
    renderNodes markup ⟨before, bindings⟩ (textNodes text) = .ok ⟨before ++ text, bindings⟩ := by
  rw [textNodes]
  split
  next empty =>
    rw [String.isEmpty_iff.mp empty, String.append_empty]
    rfl
  next => rfl

theorem renderNodes_places {bindings : Bindings} {places : List (String × String)}
    (bound : ∀ place ∈ places, IsBound bindings place.1) (before : String) :
    renderNodes markup ⟨before, bindings⟩ (places.flatMap placeNodes) =
      .ok ⟨before ++ String.join
          (places.map (fun place => valueText markup bindings place.1 ++ place.2)),
        bindings⟩ := by
  induction places generalizing before with
  | nil =>
      rw [List.map_nil, String.join_nil, String.append_empty]
      rfl
  | cons place places inductionHypothesis =>
      rw [List.forall_mem_cons] at bound
      obtain ⟨first, later⟩ := bound
      obtain ⟨value, found⟩ := Option.isSome_iff_exists.mp first
      have text : valueText markup bindings place.1 = printed markup (.named place.1) value := by
        rw [valueText, found, Option.map_some, Option.getD_some]
      have written : renderNode markup ⟨before, bindings⟩ (.print (.named place.1)) =
          .ok ⟨before ++ printed markup (.named place.1) value, bindings⟩ := by
        rw [renderNode, evaluate, lookup, found]
        rfl
      rw [List.flatMap_cons, placeNodes, List.cons_append, renderNodes, written]
      change renderNodes markup _ (textNodes place.2 ++ places.flatMap placeNodes) = _
      rw [renderNodes_append, renderNodes_textNodes]
      change renderNodes markup _ (places.flatMap placeNodes) = _
      rw [inductionHypothesis later, List.map_cons, String.join_cons, text]
      simp only [String.append_assoc]

/-- Rendering puts the text of each variable in its place. -/
theorem PlainTemplate.render_nodes (template : PlainTemplate) (name : String)
    {bindings : Bindings} (bound : ∀ place ∈ template.places, IsBound bindings place.1) :
    render name template.nodes bindings =
      .ok (template.filled (valueText (writesMarkup name) bindings)) := by
  rw [render, nodes, renderNodes_append, renderNodes_textNodes, String.empty_append]
  change (renderNodes _ _ (template.places.flatMap placeNodes)).map Progress.written = _
  rw [renderNodes_places _ bound]
  rfl

end Template
end OpenApiTypes
