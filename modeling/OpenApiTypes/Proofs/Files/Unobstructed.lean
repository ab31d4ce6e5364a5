import OpenApiTypes.Proofs.Files.Installation
import Mathlib.Data.List.Infix

namespace OpenApiTypes
namespace Files

/-!
# Directories that can be made

Whether directories can be made depends on the text of the path and on the files in the way.
Where no file is in the way, a step towards a directory fails only because the directory
around it is missing, and that one is made first.  So all of them can be made, from the root
or from the working directory on, and the directory can receive files where none of the
places for them is a directory.
-/

/-! ## Along the way of names -/

/-- Every place that some or all of the names lead to has a property. -/
def AlongWay (property : Place -> Prop) (place : Place) (names : List String) : Prop :=
  ∀ way, way <+: names -> property (walk place way)

instance (property : Place -> Prop) [DecidablePred property] (place : Place)
    (names : List String) : Decidable (AlongWay property place names) :=
  decidable_of_iff (∀ way ∈ names.inits, property (walk place way)) (by
    simp only [List.mem_inits, AlongWay])

theorem alongWay_cons_iff {property : Place -> Prop} {place : Place} {name : String}
    {rest : List String} :
    AlongWay property place (name :: rest) ↔
      property place ∧ AlongWay property (nextPlace place name) rest := by
  constructor
  · intro along
    exact ⟨along [] List.nil_prefix,
      fun way beginning => along (name :: way) (List.cons_prefix_cons.mpr ⟨rfl, beginning⟩)⟩
  · rintro ⟨here, later⟩ way beginning
    rcases List.prefix_cons_iff.mp beginning with rfl | ⟨rest, rfl, shorter⟩
    · exact here
    · exact later rest shorter

namespace AlongWay

variable {property : Place -> Prop} {place : Place}

/-- Names that stay where they are can be left out. -/
theorem without_here {names : List String} (along : AlongWay property place names) :
    AlongWay property place (names.filter (fun name => name != ".")) := by
  induction names generalizing place with
  | nil => exact along
  | cons name rest inductionHypothesis =>
      rcases alongWay_cons_iff.mp along with ⟨here, later⟩
      by_cases stays : name = "."
      · subst stays
        exact inductionHypothesis later
      · rw [List.filter_cons_of_pos (by simp [stays])]
        exact alongWay_cons_iff.mpr ⟨here, inductionHypothesis later⟩

theorem components {path : String} (along : AlongWay property place (parts path)) :
    AlongWay property place (components path) := by
  unfold Files.components
  split
  · next first rest _ cut =>
      rw [cut] at along
      rcases alongWay_cons_iff.mp along with ⟨here, later⟩
      exact alongWay_cons_iff.mpr ⟨here, later.without_here⟩
  · exact along.without_here

end AlongWay

namespace Tree

/-! ## Names without files in the way -/

/-- No name is too long, and where some or all of the names lead, there is nothing or a
directory. -/
structure IsClear (tree : Tree) (place : Place) (names : List String) : Prop where
  short : ∀ name ∈ names, name.utf8ByteSize ≤ longestName
  noFile : AlongWay (fun there => tree.node? there = none ∨ tree.node? there = some .directory)
    place names

instance (tree : Tree) (place : Place) (names : List String) :
    Decidable (tree.IsClear place names) :=
  decidable_of_iff (_ ∧ _) ⟨fun both => ⟨both.1, both.2⟩, fun clear => ⟨clear.short, clear.noFile⟩⟩

namespace IsClear

variable {tree : Tree} {place : Place} {names : List String}

theorem of_prefix (clear : tree.IsClear place names) {way : List String}
    (beginning : way <+: names) : tree.IsClear place way :=
  ⟨fun name member => clear.short name (beginning.mem member),
    fun shorter within => clear.noFile shorter (within.trans beginning)⟩

theorem components {path : String} (clear : tree.IsClear place (parts path)) :
    tree.IsClear place (components path) :=
  ⟨fun name member => clear.short name ((components_sublist path).subset member),
    clear.noFile.components⟩

/-- New directories are no files. -/
theorem of_madeAlong {directory : String} {made : Tree} (clear : tree.IsClear place names)
    (along : MadeAlong directory tree made) : made.IsClear place names := by
  refine ⟨clear.short, fun way beginning => ?_⟩
  rcases along.nodes (walk place way) with same | ⟨_, new, _⟩
  · rw [same]
    exact clear.noFile way beginning
  · exact .inr new

/-- What is not found is missing. -/
theorem follow (clear : tree.IsClear place names) :
    tree.follow place names = .ok (walk place names) ∨
      tree.follow place names = .error .notFound := by
  induction names generalizing place with
  | nil => exact .inl rfl
  | cons name rest inductionHypothesis =>
      have short := clear.short name (List.mem_cons_self ..)
      rcases alongWay_cons_iff.mp clear.noFile with ⟨noFile, noFileLater⟩
      have later : tree.IsClear (nextPlace place name) rest :=
        ⟨fun other member => clear.short other (List.mem_cons_of_mem name member), noFileLater⟩
      rcases noFile with missing | directory
      · right
        simp only [Tree.follow, enter, missing, bind, Except.bind]
      · have next : tree.follow place (name :: rest) =
            tree.follow (nextPlace place name) rest := by
          simp only [Tree.follow, enter, directory, bind, Except.bind,
            if_neg (Nat.not_lt.mpr short)]
          rfl
        rw [next]
        exact inductionHypothesis later

end IsClear

/-! ## Making one directory -/

section Step

variable {tree : Tree} {path : String} (admissible : Admissible path)
  (clear : tree.IsClear (tree.startOf path) (parts path))

include admissible clear

/-- A directory is made, or it is there already, where its names lead. -/
theorem makeDirectory_of_follow {place : Place}
    (led : tree.follow (tree.startOf path) (parts path) = .ok place) :
    (Exists fun made : Tree => tree.makeDirectory path = .ok made) ∨
      (tree.makeDirectory path = .error .exists ∧ tree.isDirectory path = true) := by
  have resolved : tree.resolve path = .ok place :=
    (tree.resolve_eq_ok_iff path place).mpr ⟨admissible, led⟩
  have there := ((tree.follow_eq_ok_iff ..).mp led).1
  unfold makeDirectory
  simp only [resolved, bind, Except.bind]
  have noFile := clear.noFile _ (List.prefix_refl _)
  rw [← there] at noFile
  rcases noFile with missing | found
  · rw [missing]
    exact .inl ⟨_, rfl⟩
  · rw [found]
    exact .inr ⟨rfl, (tree.isDirectory_iff path).mpr ⟨place, resolved, found⟩⟩

theorem ensureDirectory_of_follow {place : Place}
    (led : tree.follow (tree.startOf path) (parts path) = .ok place) :
    Exists fun made : Tree => tree.ensureDirectory path = .ok made := by
  unfold ensureDirectory
  rcases makeDirectory_of_follow admissible clear led with ⟨made, done⟩ | ⟨already, there⟩
  · rw [done]
    exact ⟨made, rfl⟩
  · rw [already]
    exact ⟨tree, if_pos there⟩

/-- A directory can be made once what is around it has been made. -/
theorem makeDirectoryAfter_succeeds {around : Except Problem Unit × Tree}
    (surrounded : around.1 = .ok ())
    (ensured : Exists fun made : Tree => around.2.ensureDirectory path = .ok made) :
    (tree.makeDirectoryAfter path around).1 = .ok () := by
  unfold makeDirectoryAfter
  rcases clear.follow with led | missing
  · rcases makeDirectory_of_follow admissible clear led with ⟨made, done⟩ | ⟨already, there⟩
    · rw [done]
    · rw [already]
      exact if_pos there
  · have tried : tree.makeDirectory path = .error .notFound := by
      unfold makeDirectory
      rw [tree.resolve_eq_follow admissible, missing]
      rfl
    rcases around with ⟨outcome, surroundings⟩
    rcases ensured with ⟨made, done⟩
    cases surrounded
    rw [tried]
    dsimp only
    rw [done]

end Step

/-! ## Making all directories on the way -/

/-- Once names lead to a directory, all names of a path lead somewhere. -/
def EndsIn (path : String) (around : List String) : Prop :=
  ∀ (tree : Tree) (place : Place), tree.follow (tree.startOf path) around = .ok place ->
    tree.node? place = some .directory ->
      Exists fun there : Place => tree.follow (tree.startOf path) (parts path) = .ok there

/-- One more name leads somewhere from a directory. -/
theorem exists_follow_concat {tree : Tree} {start place : Place} {around : List String}
    {last : String} (led : tree.follow start around = .ok place)
    (directory : tree.node? place = some .directory) (short : last.utf8ByteSize ≤ longestName) :
    Exists fun there : Place => tree.follow start (around ++ [last]) = .ok there := by
  refine ⟨nextPlace place last, (tree.follow_append_eq_ok_iff ..).mpr ⟨place, led, ?_⟩⟩
  exact (tree.follow_cons_eq_ok_iff ..).mpr ⟨directory, short, rfl⟩

/-- What is known of a path on the way to a directory, and of the names of the directory
around it. -/
structure OnTheWay (tree : Tree) (directory path : String) (around : List String) : Prop where
  admissible : Admissible path
  alike : isAbsolute path = isAbsolute directory
  clear : tree.IsClear (tree.startOf path) (parts path)
  clearAround : tree.IsClear (tree.startOf path) around
  beginning : around <+: components directory
  within : around.Sublist (parts path)
  ends : EndsIn path around

namespace OnTheWay

variable {tree : Tree} {directory path : String} {around : List String}

theorem isName (way : OnTheWay tree directory path around) : ∀ name ∈ around, IsName name :=
  fun _ member => isName_of_mem_parts (way.within.subset member)

/-- The directory around a path is on the way as well. -/
theorem outwards {innermost : String} (way : OnTheWay tree directory path (around ++ [innermost])) :
    OnTheWay tree directory (withNames path (around ++ [innermost])) around := by
  have cut := parts_withNames way.isName path
  have start (tree : Tree) := tree.startOf_withNames way.isName path
  have outside := List.prefix_append around [innermost]
  refine ⟨way.admissible.withNames way.within (by simp),
    (isAbsolute_withNames way.isName path).trans way.alike, ?_, ?_, outside.trans way.beginning,
    ?_, ?_⟩
  · rw [start, cut]
    exact way.clearAround
  · rw [start]
    exact way.clearAround.of_prefix outside
  · rw [cut]
    exact outside.sublist
  · intro tree place led isDirectory
    rw [start] at led
    rw [start, cut]
    exact exists_follow_concat led isDirectory (way.clearAround.short innermost (by simp))

end OnTheWay

/-- Directories are made from the outermost one on.  The induction is on the directories
around the path, which are made first. -/
theorem makeDirectoryWithin_succeeds {tree : Tree} {directory path : String}
    {enclosing : List String} (way : OnTheWay tree directory path enclosing.reverse) :
    (tree.makeDirectoryWithin path enclosing).1 = .ok () := by
  induction enclosing generalizing path with
  | nil =>
      rcases way.ends tree _ rfl (tree.node?_startOf path) with ⟨there, led⟩
      rw [makeDirectoryWithin]
      exact makeDirectoryAfter_succeeds way.admissible way.clear rfl
        (ensureDirectory_of_follow way.admissible way.clear led)
  | cons innermost outer inductionHypothesis =>
      rw [List.reverse_cons] at way
      rw [makeDirectoryWithin, List.reverse_cons]
      have surrounded := inductionHypothesis way.outwards
      rcases madeAlong_makeDirectoryWithin tree (leadsAlong_withNames way.alike way.beginning)
        way.outwards.alike way.outwards.beginning with ⟨along, there⟩
      rcases (isDirectory_iff ..).mp (there surrounded) with ⟨place, resolved, isDirectory⟩
      have led := ((resolve_eq_ok_iff ..).mp resolved).2
      rw [startOf_withNames _ way.isName, parts_withNames way.isName] at led
      rcases way.ends _ place led isDirectory with ⟨found, leads⟩
      -- What has been made around the path does not get in its way.
      have clear := way.clear.of_madeAlong along
      rw [← startOf_congr along.home rfl] at clear
      exact makeDirectoryAfter_succeeds way.admissible way.clear surrounded
        (ensureDirectory_of_follow way.admissible clear leads)

/-! ## Whole paths -/

/-- Names that stay at directories lead where the others lead. -/
theorem follow_with_here {tree : Tree} {place found : Place} {names : List String}
    (led : tree.follow place (names.filter (fun name => name != ".")) = .ok found)
    (directory : tree.node? found = some .directory) : tree.follow place names = .ok found := by
  induction names generalizing place with
  | nil => exact led
  | cons name rest inductionHypothesis =>
      by_cases here : name = "."
      · subst here
        have later := inductionHypothesis led
        refine (tree.follow_cons_eq_ok_iff ..).mpr ⟨?_, by decide +kernel, later⟩
        cases rest with
        | nil =>
            cases later
            exact directory
        | cons next others => exact ((tree.follow_cons_eq_ok_iff ..).mp later).1
      · rw [List.filter_cons_of_pos (by simp [here])] at led
        rcases (tree.follow_cons_eq_ok_iff ..).mp led with ⟨isDirectory, short, later⟩
        exact (tree.follow_cons_eq_ok_iff ..).mpr ⟨isDirectory, short, inductionHypothesis later⟩

/-- A path does not end with a name that stays where it is, unless all its names do. -/
def EndsProperly (path : String) : Prop :=
  (parts path).getLast? = some "." -> ∀ name ∈ parts path, name = "."

instance (path : String) : Decidable (EndsProperly path) :=
  inferInstanceAs (Decidable (_ -> _))

/-- When the names in front of the last one lead to a directory without those that stay where
they are, then they lead there with them too. -/
theorem follow_dropLast_components {tree : Tree} {path last : String} {around : List String}
    {place : Place} (cut : parts path = around ++ [last]) (other : last ≠ ".")
    (led : tree.follow (tree.startOf path) (components path).dropLast = .ok place)
    (directory : tree.node? place = some .directory) :
    tree.follow (tree.startOf path) around = .ok place := by
  have dropped (names : List String) :
      ((names ++ [last]).filter (fun name => name != ".")).dropLast =
        names.filter (fun name => name != ".") := by
    rw [List.filter_append, List.filter_cons_of_pos (by simp [other]), List.filter_nil,
      List.dropLast_concat]
  unfold components at led
  rw [cut] at led
  split at led
  · next first rest _ shape =>
      cases around with
      | nil =>
          cases shape
          exact led
      | cons name names =>
          rw [List.cons_append, List.cons.injEq] at shape
          rcases shape with ⟨rfl, rfl⟩
          have kept : ((names ++ [last]).filter (fun name => name != ".")) ≠ [] := by
            simp [other]
          rw [List.dropLast_cons_of_ne_nil kept, dropped] at led
          rcases (tree.follow_cons_eq_ok_iff ..).mp led with ⟨isDirectory, short, later⟩
          exact (tree.follow_cons_eq_ok_iff ..).mpr
            ⟨isDirectory, short, follow_with_here later directory⟩
  · rw [dropped] at led
    exact follow_with_here led directory

/-- Once the names in front of the last one lead to a directory, the path leads somewhere. -/
theorem endsIn_components {path : String} (ends : EndsProperly path)
    (short : ∀ name ∈ parts path, name.utf8ByteSize ≤ longestName) :
    EndsIn path (components path).dropLast := by
  intro tree place led directory
  rcases List.eq_nil_or_concat (parts path) with none | ⟨around, last, cut⟩
  · rw [none]
    exact ⟨_, rfl⟩
  · rw [List.concat_eq_append] at cut
    by_cases here : last = "."
    · subst here
      have all := ends (by rw [cut, List.getLast?_concat])
      have stays : (parts path).filter (fun name => name != ".") = [] := by
        rw [List.filter_eq_nil_iff]
        intro name member
        simp [all name member]
      refine ⟨tree.startOf path, follow_with_here ?_ (tree.node?_startOf path)⟩
      rw [stays]
      rfl
    · rw [cut] at short ⊢
      exact exists_follow_concat (follow_dropLast_components cut here led directory) directory
        (short last (by simp))

/-- All directories of a path that are missing can be made, when nothing is in the way. -/
theorem makeDirectories_succeeds {tree : Tree} {path : String} (admissible : Admissible path)
    (clear : tree.IsClear (tree.startOf path) (parts path)) (ends : EndsProperly path) :
    (tree.makeDirectories path).1 = .ok () := by
  have beginning := List.dropLast_prefix (components path)
  have way : OnTheWay tree path path (components path).dropLast.reverse.reverse := by
    rw [List.reverse_reverse]
    exact ⟨admissible, rfl, clear, clear.components.of_prefix beginning, beginning,
      beginning.sublist.trans (components_sublist path), endsIn_components ends clear.short⟩
  rw [makeDirectories, if_neg admissible.nonempty]
  exact makeDirectoryWithin_succeeds way

/-! ## Directories that can receive files -/

/-- Nothing is in the way of files with some names in a directory. -/
structure Unobstructed (directory : String) (names : List String) (tree : Tree) : Prop where
  admissible : Admissible directory
  ends : EndsProperly directory
  /-- No file is where the path leads, or on the way. -/
  clear : tree.IsClear (tree.startOf directory) (parts directory)
  fits : ∀ name ∈ names,
    Admissible (join directory name) ∧ name.utf8ByteSize ≤ longestName
  /-- No directory is where a file is to be, and none is made there on the way. -/
  free : ∀ name ∈ names,
    ¬ tree.ListsDirectory (walk (tree.startOf directory) (parts directory) ++ [name]) ∧
      AlongWay (fun there => there ≠ walk (tree.startOf directory) (parts directory) ++ [name])
        (tree.startOf directory) (parts directory)

instance (directory : String) (names : List String) (tree : Tree) :
    Decidable (Unobstructed directory names tree) :=
  decidable_of_iff (_ ∧ _ ∧ _ ∧ _ ∧ _)
    ⟨fun all => ⟨all.1, all.2.1, all.2.2.1, all.2.2.2.1, all.2.2.2.2⟩,
      fun whole => ⟨whole.admissible, whole.ends, whole.clear, whole.fits, whole.free⟩⟩

/-- The files can be written once the directory has been made, and cleaned or not. -/
theorem Unobstructed.isOpen {directory name : String} {names : List String}
    {tree made cleaned : Tree} (unobstructed : Unobstructed directory names tree)
    (along : MadeAlong directory tree made) (isDirectory : made.isDirectory directory = true)
    (keeps : KeepsDirectories made cleaned)
    (lists : ∀ place, cleaned.ListsDirectory place -> made.ListsDirectory place)
    (member : name ∈ names) (proper : IsFileName name) : IsOpen cleaned directory name := by
  rcases (isDirectory_iff ..).mp isDirectory with ⟨place, resolved, found⟩
  have led := ((resolve_eq_ok_iff ..).mp resolved).2
  have start : made.startOf directory = tree.startOf directory := startOf_congr along.home rfl
  have here := ((follow_eq_ok_iff ..).mp led).1
  rw [start] at here
  rcases unobstructed.fits name member with ⟨admissible, short⟩
  rcases unobstructed.free name member with ⟨unlisted, apart⟩
  rw [← here] at unlisted apart
  refine ⟨place ++ [name], ?_, fun occupied => ?_⟩
  · exact resolve_join_of_follow proper admissible short (keeps.followFrom led)
      (keeps.directories place found)
  · -- A directory in the place of the file was there before, or it was made on the way.
    rcases along.listed _ (lists _ (listsDirectory_of_node? occupied)) with
      before | ⟨way, beginning, leads⟩
    · exact unlisted before
    · rw [start] at leads
      exact apart.components way beginning ((follow_eq_ok_iff ..).mp leads).1.symm

/-- A directory can receive files where nothing is in the way. -/
theorem canReceive_of_unobstructed {directory : String} {names : List String} {tree : Tree}
    (proper : ∀ name ∈ names, IsFileName name) (unobstructed : Unobstructed directory names tree)
    (cleans : Bool) : CanReceive directory cleans names tree := by
  have made := makeDirectories_succeeds unobstructed.admissible unobstructed.clear unobstructed.ends
  rcases tree.makeDirectories_spec directory with ⟨along, there⟩
  have isDirectory := there made unobstructed.admissible.nonempty
  refine ⟨made, ?_⟩
  cases cleans with
  | false =>
      refine ⟨(tree.makeDirectories directory).2, ?_, fun name member => ?_⟩
      · rw [if_neg Bool.false_ne_true]
      · exact unobstructed.isOpen along isDirectory (.refl _) (fun _ => id) member
          (proper name member)
  | true =>
      rcases (isDirectory_iff ..).mp isDirectory with ⟨place, resolved, _⟩
      cases done : (tree.makeDirectories directory).2.clean directory with
      | error problem =>
          rw [clean, resolved] at done
          cases done
      | ok cleaned =>
          refine ⟨cleaned, ?_, fun name member => ?_⟩
          · rw [if_pos rfl]
          · exact unobstructed.isOpen along isDirectory (keepsDirectories_clean done)
              (fun _ => listsDirectory_of_clean done) member (proper name member)

/-- Nothing but the working directory is there, and the path goes up and down again. -/
example : Unobstructed "/srv/../web//api" ["index.ts"] { home := ["home"] } := by
  decide +kernel

end Tree
end Files
end OpenApiTypes
