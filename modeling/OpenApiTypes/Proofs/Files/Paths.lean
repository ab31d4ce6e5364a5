import OpenApiTypes.Files.Path
import OpenApiTypes.Proofs.Text.Pieces

namespace OpenApiTypes

/-!
# The names of a path

Cutting at slashes and dropping empty names turns a slash between two paths into a
concatenation of their names.  What joins a name to a directory adds that name at the
end, and a path that is written from names is cut into the same names again.  None of
this changes where a path starts, and a path with fewer names is no longer than before.
-/

namespace Files

/-! ## Names -/

/-- Whether a text can be one name of a path. -/
structure IsName (name : String) : Prop where
  nonempty : name ≠ ""
  noSlash : '/' ∉ name.toList

/-- Whether a name is that of a file in the directory at hand. -/
structure IsFileName (name : String) : Prop extends IsName name where
  notHere : name ≠ "."
  notUp : name ≠ ".."

/-- A path is cut into names. -/
theorem isName_of_mem_parts {path name : String} (member : name ∈ parts path) : IsName name := by
  rw [parts, List.mem_filter, bne_iff_ne] at member
  refine ⟨member.2, ?_⟩
  rcases List.mem_map.mp member.1 with ⟨piece, inside, rfl⟩
  rw [String.toList_ofList]
  exact Text.not_mem_of_mem_splitAt inside

/-- Names are only left out. -/
theorem components_sublist (path : String) : (components path).Sublist (parts path) := by
  unfold components
  split
  · next first rest _ cut =>
      rw [cut]
      exact List.filter_sublist.cons_cons first
  · exact List.filter_sublist

theorem isName_of_mem_components {path name : String} (member : name ∈ components path) :
    IsName name :=
  isName_of_mem_parts ((components_sublist path).subset member)

/-! ## Paths that are put together -/

theorem parts_append_slash (first second : String) :
    parts (first ++ "/" ++ second) = parts first ++ parts second := by
  unfold parts
  have cut := Text.pieces_append '/' first second
  rw [show String.singleton '/' = "/" from rfl] at cut
  rw [cut, List.filter_append]

@[simp] theorem parts_empty : parts "" = [] := by
  decide +kernel

/-- A name is a path of its own. -/
theorem parts_of_isName {name : String} (proper : IsName name) : parts name = [name] := by
  unfold parts Text.pieces
  rw [Text.splitAt_of_not_mem proper.noSlash, List.map_singleton, String.ofList_toList]
  simp [proper.nonempty]

private theorem endsWith_iff (text ending : String) :
    text.endsWith ending = true ↔ Exists fun front : String => text = front ++ ending := by
  have suffix := @String.Slice.endsWith_string_iff ending text.toSlice
  rw [String.copy_toSlice] at suffix
  refine suffix.trans ?_
  constructor
  · rintro ⟨front, same⟩
    refine ⟨String.ofList front, ?_⟩
    rw [← String.ofList_toList (s := text), ← same, String.ofList_append, String.ofList_toList]
  · rintro ⟨front, rfl⟩
    exact ⟨front.toList, (String.toList_append).symm⟩

/-- Whether a path asks for a directory shows at its last character. -/
theorem asksForDirectory_iff (path : String) :
    asksForDirectory path = true ↔ Exists fun front : String => path = front ++ "/" :=
  endsWith_iff path "/"

/-- The name of a TypeScript file has something in front of the ending. -/
theorem isTypeScript_iff (name : String) :
    isTypeScript name = true ↔
      Exists fun front : String => front ≠ "" ∧ name = front ++ ".ts" := by
  rw [isTypeScript, Bool.and_eq_true, endsWith_iff, bne_iff_ne]
  constructor
  · rintro ⟨⟨front, rfl⟩, more⟩
    refine ⟨front, ?_, rfl⟩
    rintro rfl
    exact more (String.empty_append ..)
  · rintro ⟨front, nonempty, rfl⟩
    refine ⟨⟨front, rfl⟩, ?_⟩
    intro same
    exact nonempty (String.append_eq_right_iff.mp same)

/-- Joining a name to a directory adds the name at the end. -/
theorem parts_join (directory : String) {name : String} (proper : IsName name) :
    parts (join directory name) = parts directory ++ [name] := by
  unfold join
  by_cases here : directory = ""
  · subst here
    rw [if_pos (by simp), String.empty_append, parts_empty, List.nil_append,
      parts_of_isName proper]
  · by_cases slash : asksForDirectory directory = true
    · rw [if_pos (by simp [slash])]
      rcases (asksForDirectory_iff directory).mp slash with ⟨front, rfl⟩
      have around := parts_append_slash front ""
      rw [String.append_empty, parts_empty, List.append_nil] at around
      rw [parts_append_slash, around, parts_of_isName proper]
    · rw [if_neg (by simp [here, slash]), parts_append_slash, parts_of_isName proper]

/-- A path to a name inside a directory does not ask for a directory. -/
theorem asksForDirectory_join (directory : String) {name : String} (proper : IsName name) :
    asksForDirectory (join directory name) = false := by
  rw [Bool.eq_false_iff]
  intro asks
  rcases (asksForDirectory_iff _).mp asks with ⟨front, same⟩
  have ending : Exists fun before : String => join directory name = before ++ name := by
    unfold join
    split
    · exact ⟨directory, rfl⟩
    · exact ⟨directory ++ "/", rfl⟩
  rcases ending with ⟨before, joined⟩
  have characters : before.toList ++ name.toList = front.toList ++ ['/'] := by
    rw [← String.toList_append, ← joined, same, String.toList_append]
    rfl
  have nonempty : name.toList ≠ [] := by
    rw [ne_eq, String.toList_eq_nil_iff]
    exact proper.nonempty
  have final := congrArg List.getLast? characters
  rw [List.getLast?_append_of_ne_nil _ nonempty, List.getLast?_concat] at final
  exact proper.noSlash (List.mem_of_getLast? final)

/-- A path that is written from names is cut into these names. -/
theorem parts_ofParts {names : List String} (proper : ∀ name ∈ names, IsName name) :
    parts (ofParts names) = names := by
  unfold ofParts
  induction names with
  | nil => exact parts_empty
  | cons name rest inductionHypothesis =>
      rw [List.forall_mem_cons] at proper
      cases rest with
      | nil => rw [String.intercalate_singleton, parts_of_isName proper.1]
      | cons next others =>
          rw [String.intercalate_cons_cons, parts_append_slash, parts_of_isName proper.1,
            inductionHypothesis proper.2, List.singleton_append]

/-! ## Where paths start -/

/-- Where a path starts shows at its first character. -/
theorem isAbsolute_iff (path : String) : isAbsolute path = true ↔ ['/'] <+: path.toList :=
  String.startsWith_string_iff

@[simp] theorem isAbsolute_empty : isAbsolute "" = false := by
  decide +kernel

/-- What follows some text has no part in where a path starts. -/
theorem isAbsolute_append {first : String} (nonempty : first ≠ "") (second : String) :
    isAbsolute (first ++ second) = isAbsolute first := by
  rw [Bool.eq_iff_iff, isAbsolute_iff, isAbsolute_iff, String.toList_append]
  cases characters : first.toList with
  | nil => exact absurd (String.toList_eq_nil_iff.mp characters) nonempty
  | cons character rest =>
      rw [List.cons_append, List.cons_prefix_cons, List.cons_prefix_cons]
      simp only [List.nil_prefix, and_true]

/-- A name by itself does not start at the root. -/
theorem isAbsolute_of_isName {name : String} (proper : IsName name) : isAbsolute name = false := by
  rw [Bool.eq_false_iff, ne_eq, isAbsolute_iff]
  intro slash
  exact proper.noSlash (slash.subset List.mem_cons_self)

/-- A path to a name inside a directory starts where the path of the directory starts. -/
theorem isAbsolute_join (directory : String) {name : String} (proper : IsName name) :
    isAbsolute (join directory name) = isAbsolute directory := by
  unfold join
  by_cases here : directory = ""
  · subst here
    rw [if_pos (by simp), String.empty_append, isAbsolute_of_isName proper, isAbsolute_empty]
  · split
    · exact isAbsolute_append here name
    · have separated : directory ++ "/" ≠ "" := by simp
      rw [isAbsolute_append separated, isAbsolute_append here]

private theorem isAbsolute_ofParts {names : List String} (proper : ∀ name ∈ names, IsName name) :
    isAbsolute (ofParts names) = false := by
  unfold ofParts
  cases names with
  | nil => exact isAbsolute_empty
  | cons name rest =>
      rw [List.forall_mem_cons] at proper
      cases rest with
      | nil => exact isAbsolute_of_isName proper.1
      | cons next others =>
          have separated : name ++ "/" ≠ "" := by simp
          rw [String.intercalate_cons_cons, isAbsolute_append separated,
            isAbsolute_append proper.1.nonempty, isAbsolute_of_isName proper.1]

section OtherNames

variable {names : List String} (proper : ∀ name ∈ names, IsName name) (path : String)

include proper

/-- Other names in the place of those of a path. -/
theorem parts_withNames : parts (withNames path names) = names := by
  unfold withNames
  split
  · have cut := parts_append_slash "" (ofParts names)
    rwa [String.empty_append, parts_empty, List.nil_append, parts_ofParts proper] at cut
  · exact parts_ofParts proper

/-- A path with other names starts where the path starts. -/
theorem isAbsolute_withNames : isAbsolute (withNames path names) = isAbsolute path := by
  unfold withNames
  cases absolute : isAbsolute path with
  | true =>
      rw [if_pos rfl, isAbsolute_append (by decide)]
      decide +kernel
  | false =>
      rw [if_neg Bool.false_ne_true]
      exact isAbsolute_ofParts proper

end OtherNames

/-! ## Paths with fewer names -/

/-- Joining the pieces of a path again gives the path. -/
private theorem ofParts_pieces (path : String) : ofParts (Text.pieces '/' path) = path := by
  have joined (first : List Char) (more : List (List Char)) :
      ofParts ((first :: more).map String.ofList) =
        String.ofList (first ++ more.flatMap ('/' :: ·)) := by
    unfold ofParts
    induction more generalizing first with
    | nil =>
        rw [List.map_singleton, String.intercalate_singleton, List.flatMap_nil, List.append_nil]
    | cons second others inductionHypothesis =>
        have later := inductionHypothesis second
        rw [List.map_cons] at later
        rw [List.map_cons, List.map_cons, String.intercalate_cons_cons, later, List.flatMap_cons,
          String.append_assoc, show "/" = String.ofList ['/'] from rfl, ← String.ofList_append,
          ← String.ofList_append]
        rfl
  rcases Text.exists_splitAt '/' path.toList with ⟨first, more, cut, same⟩
  rw [Text.pieces, cut, joined, ← same, String.ofList_toList]

/-- Names that are left out take their characters with them. -/
private theorem sublist_ofParts {first second : List String} (within : first.Sublist second) :
    (ofParts first).toList.Sublist (ofParts second).toList := by
  unfold ofParts
  induction within with
  | slnil => exact List.Sublist.refl _
  | @cons first second name within inductionHypothesis =>
      cases second with
      | nil =>
          cases within
          exact List.nil_sublist _
      | cons next others =>
          rw [String.intercalate_cons_cons, String.toList_append]
          exact inductionHypothesis.trans (List.sublist_append_right _ _)
  | @cons_cons first second name within inductionHypothesis =>
      cases first with
      | nil =>
          cases second with
          | nil => exact List.Sublist.refl _
          | cons next others =>
              rw [String.intercalate_singleton, String.intercalate_cons_cons, String.append_assoc,
                String.toList_append]
              exact List.sublist_append_left _ _
      | cons next others =>
          cases second with
          | nil => cases within
          | cons other rest =>
              rw [String.intercalate_cons_cons, String.intercalate_cons_cons, String.toList_append,
                String.toList_append (s := name ++ "/")]
              exact (List.Sublist.refl _).append inductionHypothesis

/-- A path that is written from some of the names of a path has no other characters. -/
theorem sublist_withNames {path : String} {names : List String}
    (within : names.Sublist (parts path)) (nonempty : names ≠ []) :
    (withNames path names).toList.Sublist path.toList := by
  have pieces : names.Sublist (Text.pieces '/' path) := within.trans List.filter_sublist
  unfold withNames
  cases absolute : isAbsolute path with
  | false =>
      have shorter := sublist_ofParts pieces
      rw [ofParts_pieces] at shorter
      exact shorter
  | true =>
      -- The piece in front of the first slash is empty.
      rcases (isAbsolute_iff path).mp absolute with ⟨rest, begins⟩
      have slashed : path = "" ++ "/" ++ String.ofList rest := by
        rw [← String.ofList_toList (s := path), ← begins, String.ofList_append]
        rfl
      have cut : Text.pieces '/' path = "" :: Text.pieces '/' (String.ofList rest) := by
        rw [slashed]
        exact Text.pieces_append '/' "" (String.ofList rest)
      have later : names.Sublist (Text.pieces '/' (String.ofList rest)) := by
        rw [slashed, parts_append_slash, parts_empty, List.nil_append] at within
        exact within.trans List.filter_sublist
      have shorter := sublist_ofParts (later.cons_cons "")
      rw [← cut, ofParts_pieces, ofParts, String.intercalate_cons_of_ne_nil nonempty] at shorter
      exact shorter

end Files
end OpenApiTypes
