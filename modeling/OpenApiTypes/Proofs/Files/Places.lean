import OpenApiTypes.Files.Tree
import OpenApiTypes.Proofs.Files.Paths
import OpenApiTypes.Proofs.Registry.Lookup
import Mathlib.Data.String.Basic

namespace OpenApiTypes
namespace Files

/-!
# Where paths lead

A path is followed from the root when it begins with a slash, and from the working
directory when it does not.  Following names looks at nothing but which places are
directories.  So a path that leads somewhere leads to the same place for as long as the
directories stay, whatever happens to the files in between; and a path to a name inside a
directory leads to that name at the place of the directory.
-/

/-! ## Places -/

/-- Where one name leads from a directory. -/
def nextPlace (place : Place) (name : String) : Place :=
  if name = "." then place else if name = ".." then enclosing place else place ++ [name]

/-- Where names lead from a directory one after the other. -/
def walk (place : Place) (names : List String) : Place :=
  names.foldl nextPlace place

theorem nextPlace_of_isFileName {name : String} (proper : IsFileName name) (place : Place) :
    nextPlace place name = place ++ [name] := by
  rw [nextPlace, if_neg proper.notHere, if_neg proper.notUp]

namespace Tree

/-! ## What is at a place -/

/-- A look-up among filtered entries finds what it found before when that is kept. -/
theorem lookup_filter {keep : Place × Node -> Bool} {entries : List (Place × Node)}
    {place : Place} (kept : ∀ node, entries.lookup place = some node -> keep (place, node) = true) :
    (entries.filter keep).lookup place = entries.lookup place := by
  induction entries with
  | nil => rfl
  | cons head rest inductionHypothesis =>
      rcases head with ⟨key, node⟩
      by_cases same : place = key
      · subst same
        have keeps := kept node (by simp)
        rw [List.filter_cons_of_pos keeps]
        simp
      · have different : (place == key) = false := beq_eq_false_iff_ne.mpr same
        rw [List.lookup_cons, different] at kept ⊢
        have later := inductionHypothesis kept
        rw [List.filter_cons]
        split
        · rw [List.lookup_cons, different]
          exact later
        · exact later

theorem node?_set (tree : Tree) {place : Place} (inside : tree.isAround place = false)
    (node : Node) (other : Place) :
    (tree.set place node).node? other = if other = place then some node else tree.node? other := by
  have around : (tree.set place node).isAround other = tree.isAround other := rfl
  unfold node?
  rw [around, set]
  by_cases same : other = place
  · subst same
    simp [inside]
  · have different : (other == place) = false := beq_eq_false_iff_ne.mpr same
    rw [if_neg same, List.lookup_cons, different]
    dsimp only
    rw [lookup_filter]
    intro found _
    exact bne_iff_ne.mpr same

theorem isAround_eq_false {tree : Tree} {place : Place}
    (other : tree.node? place ≠ some .directory) : tree.isAround place = false := by
  rw [Bool.eq_false_iff]
  intro around
  rw [node?, if_pos around] at other
  exact other rfl

/-- Whether a place is listed as a directory, or is one without being listed. -/
def ListsDirectory (tree : Tree) (place : Place) : Prop :=
  tree.isAround place = true ∨ (place, Node.directory) ∈ tree.nodes

instance (tree : Tree) (place : Place) : Decidable (tree.ListsDirectory place) :=
  inferInstanceAs (Decidable (_ ∨ _))

theorem listsDirectory_of_node? {tree : Tree} {place : Place}
    (found : tree.node? place = some .directory) : tree.ListsDirectory place := by
  unfold node? at found
  split at found
  · next around => exact .inl around
  · rcases List.lookup_eq_some_iff.mp found with ⟨before, after, split, _⟩
    rw [ListsDirectory, split]
    exact .inr (List.mem_append_right before (List.mem_cons_self ..))

/-! ## Following names -/

theorem enter_eq_ok_iff (tree : Tree) (place here : Place) :
    tree.enter place = .ok here ↔ tree.node? place = some .directory ∧ here = place := by
  unfold enter
  split
  · next found => simp [found, eq_comm]
  · next found => simp [found]
  · next found => simp [found]

theorem follow_cons_eq_ok_iff (tree : Tree) (place : Place) (name : String)
    (rest : List String) (found : Place) :
    tree.follow place (name :: rest) = .ok found ↔
      tree.node? place = some .directory ∧ name.utf8ByteSize ≤ longestName ∧
        tree.follow (nextPlace place name) rest = .ok found := by
  rw [follow]
  cases entered : tree.enter place with
  | error problem =>
      have closed : tree.node? place ≠ some .directory := by
        intro directory
        have opened := (tree.enter_eq_ok_iff place place).mpr ⟨directory, rfl⟩
        rw [opened] at entered
        cases entered
      constructor
      · intro impossible
        cases impossible
      · rintro ⟨directory, _⟩
        exact absurd directory closed
  | ok here =>
      rcases (tree.enter_eq_ok_iff place here).mp entered with ⟨directory, rfl⟩
      by_cases long : name.utf8ByteSize > longestName
      · simp only [bind, Except.bind, if_pos long]
        constructor
        · intro impossible
          cases impossible
        · rintro ⟨_, short, _⟩
          exact absurd short (by omega)
      · simp only [bind, Except.bind, if_neg long]
        exact ⟨fun later => ⟨directory, by omega, later⟩, fun given => given.2.2⟩

/-- Names lead where they lead one after the other, when none of them is too long and all
of them but the last lead to directories. -/
theorem follow_eq_ok_iff (tree : Tree) (place : Place) (names : List String) (found : Place) :
    tree.follow place names = .ok found ↔
      found = walk place names ∧ (∀ name ∈ names, name.utf8ByteSize ≤ longestName) ∧
        ∀ way, way <+: names -> way ≠ names -> tree.node? (walk place way) = some .directory := by
  induction names generalizing place with
  | nil =>
      rw [follow, Except.ok.injEq, eq_comm]
      refine ⟨fun here => ⟨here, nofun, fun way beginning shorter => ?_⟩, And.left⟩
      exact absurd (List.prefix_nil.mp beginning) shorter
  | cons name rest inductionHypothesis =>
      rw [follow_cons_eq_ok_iff, inductionHypothesis, List.forall_mem_cons]
      constructor
      · rintro ⟨directory, short, there, others, directories⟩
        refine ⟨there, ⟨short, others⟩, fun way beginning shorter => ?_⟩
        rcases List.prefix_cons_iff.mp beginning with rfl | ⟨later, rfl, laterBeginning⟩
        · exact directory
        · exact directories later laterBeginning (fun same => shorter (congrArg _ same))
      · rintro ⟨there, ⟨short, others⟩, directories⟩
        refine ⟨directories [] List.nil_prefix (List.cons_ne_nil _ _).symm, short, there, others,
          fun way beginning shorter => ?_⟩
        exact directories (name :: way) (List.cons_prefix_cons.mpr ⟨rfl, beginning⟩)
          (fun same => shorter (List.cons.inj same).2)

/-- Names in a row are followed one part after the other. -/
theorem follow_append_eq_ok_iff (tree : Tree) (place : Place) (first second : List String)
    (found : Place) :
    tree.follow place (first ++ second) = .ok found ↔
      Exists fun middle : Place =>
        tree.follow place first = .ok middle ∧ tree.follow middle second = .ok found := by
  induction first generalizing place with
  | nil =>
      constructor
      · intro led
        exact ⟨place, rfl, led⟩
      · rintro ⟨middle, here, led⟩
        cases here
        exact led
  | cons name rest inductionHypothesis =>
      rw [List.cons_append, follow_cons_eq_ok_iff, inductionHypothesis]
      constructor
      · rintro ⟨directory, short, middle, before, after⟩
        exact ⟨middle, (tree.follow_cons_eq_ok_iff ..).mpr ⟨directory, short, before⟩, after⟩
      · rintro ⟨middle, before, after⟩
        rcases (tree.follow_cons_eq_ok_iff ..).mp before with ⟨directory, short, led⟩
        exact ⟨directory, short, middle, led, after⟩

/-- The name of a file leads from a directory to a place inside it. -/
theorem follow_fileName_eq_ok_iff (tree : Tree) (place : Place) {name : String}
    (proper : IsFileName name) (found : Place) :
    tree.follow place [name] = .ok found ↔
      tree.node? place = some .directory ∧ name.utf8ByteSize ≤ longestName ∧
        found = place ++ [name] := by
  rw [follow_cons_eq_ok_iff, nextPlace_of_isFileName proper, follow, Except.ok.injEq,
    eq_comm (a := place ++ [name])]

/-- Names that stay where they are can be left out. -/
private theorem follow_without_here {tree : Tree} {place found : Place} {names : List String}
    (led : tree.follow place names = .ok found) :
    tree.follow place (names.filter (fun name => name != ".")) = .ok found := by
  induction names generalizing place with
  | nil => exact led
  | cons name rest inductionHypothesis =>
      rcases (tree.follow_cons_eq_ok_iff ..).mp led with ⟨directory, short, later⟩
      by_cases here : name = "."
      · subst here
        exact inductionHypothesis later
      · rw [List.filter_cons_of_pos (by simp [here])]
        exact (tree.follow_cons_eq_ok_iff ..).mpr ⟨directory, short, inductionHypothesis later⟩

/-! ## Resolving paths -/

/-- What the text of a path must be, whatever files there are. -/
structure Admissible (path : String) : Prop where
  noEnd : path.toList.contains '\x00' = false
  nonempty : path ≠ ""
  short : path.utf8ByteSize ≤ longestPath

instance (path : String) : Decidable (Admissible path) :=
  decidable_of_iff (_ ∧ _ ∧ _)
    ⟨fun all => ⟨all.1, all.2.1, all.2.2⟩,
      fun admissible => ⟨admissible.noEnd, admissible.nonempty, admissible.short⟩⟩

/-- A path with some of the names of an admissible one is admissible. -/
theorem Admissible.withNames {path : String} (admissible : Admissible path) {names : List String}
    (within : names.Sublist (parts path)) (nonempty : names ≠ []) :
    Admissible (withNames path names) := by
  have characters := sublist_withNames within nonempty
  refine ⟨?_, ?_, ?_⟩
  · rw [Bool.eq_false_iff, ne_eq, List.contains_iff_mem]
    intro member
    exact Bool.eq_false_iff.mp admissible.noEnd
      (List.contains_iff_mem.mpr (characters.subset member))
  · intro empty
    have cut := parts_withNames (fun name member => isName_of_mem_parts (within.subset member)) path
    rw [empty, parts_empty] at cut
    exact nonempty cut.symm
  · have shorter := String.utf8Len_le_of_sublist characters
    rw [← String.utf8ByteSize_ofList, ← String.utf8ByteSize_ofList, String.ofList_toList,
      String.ofList_toList] at shorter
    exact shorter.trans admissible.short

/-- What an admissible path leads to is what its names lead to from its start. -/
theorem resolve_eq_follow (tree : Tree) {path : String} (admissible : Admissible path) :
    tree.resolve path = tree.follow (tree.startOf path) (parts path) := by
  rw [resolve, if_neg (Bool.eq_false_iff.mp admissible.noEnd), if_neg admissible.nonempty,
    if_neg (Nat.not_lt.mpr admissible.short)]

/-- A path that leads somewhere is admissible. -/
theorem resolve_eq_ok_iff (tree : Tree) (path : String) (place : Place) :
    tree.resolve path = .ok place ↔
      Admissible path ∧ tree.follow (tree.startOf path) (parts path) = .ok place := by
  constructor
  · intro led
    have admissible : Admissible path := by
      unfold resolve at led
      split at led
      · cases led
      · next noEnd =>
          split at led
          · cases led
          · next nonempty =>
              split at led
              · cases led
              · next short => exact ⟨Bool.eq_false_iff.mpr noEnd, nonempty, by omega⟩
    exact ⟨admissible, (tree.resolve_eq_follow admissible).symm.trans led⟩
  · rintro ⟨admissible, led⟩
    exact (tree.resolve_eq_follow admissible).trans led

/-- A path leads where its names lead without those that stay where they are. -/
theorem follow_components {tree : Tree} {path : String} {place : Place}
    (led : tree.resolve path = .ok place) :
    tree.follow (tree.startOf path) (components path) = .ok place := by
  have followed := ((tree.resolve_eq_ok_iff path place).mp led).2
  unfold components
  split
  · next first rest _ cut =>
      rw [cut] at followed
      rcases (tree.follow_cons_eq_ok_iff ..).mp followed with ⟨directory, short, later⟩
      exact (tree.follow_cons_eq_ok_iff ..).mpr ⟨directory, short, follow_without_here later⟩
  · exact follow_without_here followed

/-- A path starts at a directory that is always there. -/
theorem node?_startOf (tree : Tree) (path : String) :
    tree.node? (tree.startOf path) = some .directory := by
  rw [node?, if_pos]
  unfold isAround startOf
  split
  · rfl
  · exact List.isPrefixOf_iff_prefix.mpr (List.prefix_refl _)

/-- Paths that start alike start at the same place. -/
theorem startOf_congr {first second : Tree} (home : first.home = second.home)
    {path other : String} (alike : isAbsolute path = isAbsolute other) :
    first.startOf path = second.startOf other := by
  rw [startOf, startOf, home, alike]

/-- A path with other names starts at the same place. -/
theorem startOf_withNames (tree : Tree) {names : List String}
    (proper : ∀ name ∈ names, IsName name) (path : String) :
    tree.startOf (withNames path names) = tree.startOf path :=
  startOf_congr rfl (isAbsolute_withNames proper path)

/-- Where an admissible path to a name inside a directory leads. -/
theorem resolve_join_of_follow {tree : Tree} {directory name : String} {around : Place}
    (proper : IsFileName name) (admissible : Admissible (join directory name))
    (short : name.utf8ByteSize ≤ longestName)
    (led : tree.follow (tree.startOf directory) (parts directory) = .ok around)
    (isDirectory : tree.node? around = some .directory) :
    tree.resolve (join directory name) = .ok (around ++ [name]) := by
  rw [resolve_eq_follow tree admissible,
    startOf_congr rfl (isAbsolute_join directory proper.toIsName),
    parts_join directory proper.toIsName, follow_append_eq_ok_iff]
  exact ⟨around, led,
    (tree.follow_fileName_eq_ok_iff around proper _).mpr ⟨isDirectory, short, rfl⟩⟩

/-- A path to a name inside a directory leads to the name at the place of the directory. -/
theorem resolve_join {tree : Tree} {directory name : String} {place : Place}
    (proper : IsFileName name) (led : tree.resolve (join directory name) = .ok place) :
    Exists fun around : Place =>
      tree.follow (tree.startOf directory) (parts directory) = .ok around ∧
        tree.node? around = some .directory ∧ place = around ++ [name] := by
  have followed := ((tree.resolve_eq_ok_iff _ place).mp led).2
  rw [startOf_congr rfl (isAbsolute_join directory proper.toIsName),
    parts_join directory proper.toIsName, follow_append_eq_ok_iff] at followed
  rcases followed with ⟨around, before, last⟩
  rcases (tree.follow_fileName_eq_ok_iff around proper place).mp last with
    ⟨isDirectory, _, there⟩
  exact ⟨around, before, isDirectory, there⟩

theorem isDirectory_iff (tree : Tree) (path : String) :
    tree.isDirectory path = true ↔
      Exists fun place : Place =>
        tree.resolve path = .ok place ∧ tree.node? place = some .directory := by
  unfold isDirectory at?
  cases resolved : tree.resolve path with
  | error problem => simp [bind, Except.bind]
  | ok place =>
      simp only [bind, Except.bind, Except.ok.injEq, exists_eq_left']
      cases found : tree.node? place with
      | none => simp
      | some node =>
          cases node with
          | directory => simp
          | file content => cases asksForDirectory path <;> simp

/-- A path that does not ask for a directory leads to the file at its place. -/
theorem at?_eq_file {tree : Tree} {path : String} {place : Place} {content : List UInt8}
    (led : tree.resolve path = .ok place) (found : tree.node? place = some (.file content))
    (asks : asksForDirectory path = false) : tree.at? path = .ok (.file content) := by
  unfold at?
  simp only [led, bind, Except.bind, found]
  rw [if_neg (Bool.eq_false_iff.mp asks)]

/-! ## Directories that stay -/

/-- The working directory of the first tree is that of the second one, and every directory
of the first tree is a directory of the second one. -/
structure KeepsDirectories (first second : Tree) : Prop where
  home : second.home = first.home
  directories : ∀ place, first.node? place = some .directory ->
    second.node? place = some .directory

namespace KeepsDirectories

theorem refl (tree : Tree) : KeepsDirectories tree tree :=
  ⟨rfl, fun _ directory => directory⟩

theorem trans {first second third : Tree} (before : KeepsDirectories first second)
    (after : KeepsDirectories second third) : KeepsDirectories first third :=
  ⟨after.home.trans before.home,
    fun place directory => after.directories place (before.directories place directory)⟩

theorem startOf {first second : Tree} (keeps : KeepsDirectories first second) (path : String) :
    second.startOf path = first.startOf path :=
  startOf_congr keeps.home rfl

theorem follow {first second : Tree} (keeps : KeepsDirectories first second)
    {place found : Place} {names : List String} (led : first.follow place names = .ok found) :
    second.follow place names = .ok found := by
  induction names generalizing place with
  | nil => exact led
  | cons name rest inductionHypothesis =>
      rcases (first.follow_cons_eq_ok_iff ..).mp led with ⟨directory, short, later⟩
      exact (second.follow_cons_eq_ok_iff ..).mpr
        ⟨keeps.directories place directory, short, inductionHypothesis later⟩

/-- What follows names from the start of a path still does so. -/
theorem followFrom {first second : Tree} (keeps : KeepsDirectories first second) {path : String}
    {found : Place} {names : List String}
    (led : first.follow (first.startOf path) names = .ok found) :
    second.follow (second.startOf path) names = .ok found := by
  rw [keeps.startOf]
  exact keeps.follow led

theorem resolve {first second : Tree} (keeps : KeepsDirectories first second) {path : String}
    {place : Place} (led : first.resolve path = .ok place) : second.resolve path = .ok place := by
  rcases (first.resolve_eq_ok_iff path place).mp led with ⟨admissible, followed⟩
  exact (second.resolve_eq_ok_iff path place).mpr ⟨admissible, keeps.followFrom followed⟩

end KeepsDirectories
end Tree
end Files
end OpenApiTypes
