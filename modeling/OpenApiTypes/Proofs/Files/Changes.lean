import OpenApiTypes.Proofs.Files.Places

namespace OpenApiTypes
namespace Files
namespace Tree

/-!
# What changes of files do

Three operations change files: making directories, cleaning a directory and writing a
file.  For each of them the theorems here say what is at every place afterwards.
Making directories turns places where nothing is into directories, and only places on the
way that the path describes; this holds also when it fails half-way.  Cleaning and
writing touch files only, so all directories stay what they are.
-/

/-! ## Making directories -/

/-- Whether a beginning of the names of a path leads to a place. -/
def IsOnWay (tree : Tree) (path : String) (place : Place) : Prop :=
  Exists fun way : List String =>
    way <+: components path ∧ tree.follow (tree.startOf path) way = .ok place

theorem KeepsDirectories.isOnWay {first second : Tree} (keeps : KeepsDirectories first second)
    {path : String} {place : Place} (onWay : first.IsOnWay path place) :
    second.IsOnWay path place := by
  rcases onWay with ⟨way, beginning, led⟩
  exact ⟨way, beginning, keeps.followFrom led⟩

/-- After is before with new directories at places to which a beginning of the names of a
path leads. -/
structure MadeAlong (directory : String) (before after : Tree) : Prop where
  home : after.home = before.home
  nodes : ∀ place, after.node? place = before.node? place ∨
    (before.node? place = none ∧ after.node? place = some .directory ∧
      after.IsOnWay directory place)
  listed : ∀ place, after.ListsDirectory place ->
    before.ListsDirectory place ∨ after.IsOnWay directory place

namespace MadeAlong

variable {directory : String}

theorem keepsDirectories {before after : Tree} (made : MadeAlong directory before after) :
    KeepsDirectories before after where
  home := made.home
  directories := by
    intro place found
    rcases made.nodes place with same | ⟨_, new, _⟩
    · exact same.trans found
    · exact new

theorem refl (directory : String) (tree : Tree) : MadeAlong directory tree tree :=
  ⟨rfl, fun _ => .inl rfl, fun _ => .inl⟩

theorem trans {first second third : Tree} (before : MadeAlong directory first second)
    (after : MadeAlong directory second third) : MadeAlong directory first third where
  home := after.home.trans before.home
  nodes := by
    intro place
    rcases after.nodes place with same | ⟨absent, new, onWay⟩
    · rcases before.nodes place with sameBefore | ⟨absent, new, onWay⟩
      · exact .inl (same.trans sameBefore)
      · exact .inr ⟨absent, same.trans new, after.keepsDirectories.isOnWay onWay⟩
    · rcases before.nodes place with sameBefore | ⟨_, found, _⟩
      · exact .inr ⟨sameBefore.symm.trans absent, new, onWay⟩
      · rw [absent] at found
        cases found
  listed := by
    intro place lists
    rcases after.listed place lists with between | onWay
    · exact (before.listed place between).imp id after.keepsDirectories.isOnWay
    · exact .inr onWay

end MadeAlong

/-- Wherever a path leads, a beginning of the names of the directory leads as well. -/
def LeadsAlong (directory path : String) : Prop :=
  ∀ (tree : Tree) (place : Place), tree.resolve path = .ok place -> tree.IsOnWay directory place

/-- A path leads where its own names lead. -/
theorem leadsAlong_components (path : String) : LeadsAlong path path :=
  fun _ _ led => ⟨components path, List.prefix_refl _, follow_components led⟩

/-- A path that starts where the directory starts, with a beginning of its names, leads
along it. -/
theorem leadsAlong_withNames {directory path : String} {way : List String}
    (alike : isAbsolute path = isAbsolute directory) (beginning : way <+: components directory) :
    LeadsAlong directory (withNames path way) := by
  have proper : ∀ name ∈ way, IsName name :=
    fun name member => isName_of_mem_components (beginning.mem member)
  intro tree place led
  have followed := ((tree.resolve_eq_ok_iff _ place).mp led).2
  rw [parts_withNames proper, startOf_withNames tree proper, startOf_congr rfl alike] at followed
  exact ⟨way, beginning, followed⟩

section Making

variable {directory path : String} {tree made : Tree}

/-- A directory that is made was missing and is there afterwards. -/
theorem madeAlong_of_makeDirectory (leads : LeadsAlong directory path)
    (done : tree.makeDirectory path = .ok made) :
    MadeAlong directory tree made ∧ made.isDirectory path = true := by
  unfold makeDirectory at done
  cases resolved : tree.resolve path with
  | error problem =>
      rw [resolved] at done
      cases done
  | ok place =>
      simp only [resolved, bind, Except.bind] at done
      cases found : tree.node? place with
      | some node =>
          rw [found] at done
          cases done
      | none =>
          rw [found] at done
          cases done
          have inside : tree.isAround place = false := by
            have free : tree.node? place ≠ some .directory := by
              rw [found]
              exact nofun
            exact isAround_eq_false free
          have new : (tree.set place .directory).node? place = some .directory := by
            rw [node?_set tree inside, if_pos rfl]
          have keeps : KeepsDirectories tree (tree.set place .directory) := by
            refine ⟨rfl, fun other there => ?_⟩
            rw [node?_set tree inside]
            split
            · rfl
            · exact there
          have led := keeps.resolve resolved
          refine ⟨⟨rfl, fun other => ?_, fun other lists => ?_⟩,
            (isDirectory_iff _ path).mpr ⟨place, led, new⟩⟩
          · by_cases same : other = place
            · subst same
              exact .inr ⟨found, new, leads _ other led⟩
            · left
              rw [node?_set tree inside, if_neg same]
          · rcases lists with around | member
            · exact .inl (.inl around)
            · rcases List.mem_cons.mp member with same | former
              · cases same
                exact .inr (leads _ _ led)
              · exact .inl (.inr (List.mem_filter.mp former).1)

/-- A directory that is asked for is there afterwards, made or not. -/
theorem madeAlong_of_ensureDirectory (leads : LeadsAlong directory path)
    (done : tree.ensureDirectory path = .ok made) :
    MadeAlong directory tree made ∧ made.isDirectory path = true := by
  unfold ensureDirectory at done
  cases tried : tree.makeDirectory path with
  | ok new =>
      rw [tried] at done
      cases done
      exact madeAlong_of_makeDirectory leads tried
  | error problem =>
      simp only [tried] at done
      by_cases there : tree.isDirectory path = true
      · rw [if_pos there] at done
        cases done
        exact ⟨.refl directory tree, there⟩
      · rw [if_neg there] at done
        cases done

theorem madeAlong_makeDirectoryAfter {around : Except Problem Unit × Tree}
    (leads : LeadsAlong directory path) (before : MadeAlong directory tree around.2) :
    MadeAlong directory tree (tree.makeDirectoryAfter path around).2 ∧
      ((tree.makeDirectoryAfter path around).1 = .ok () ->
        (tree.makeDirectoryAfter path around).2.isDirectory path = true) := by
  unfold makeDirectoryAfter
  -- What was tried around the directory is looked at only when something was missing.
  split
  · next new tried =>
      have made := madeAlong_of_makeDirectory leads tried
      exact ⟨made.1, fun _ => made.2⟩
  · split
    · exact ⟨before, nofun⟩
    · next surroundings =>
        split
        · next all ensured =>
            have made := madeAlong_of_ensureDirectory leads ensured
            exact ⟨before.trans made.1, fun _ => made.2⟩
        · exact ⟨before, nofun⟩
  · refine ⟨.refl directory tree, fun done => ?_⟩
    by_cases there : tree.isDirectory path = true
    · exact there
    · rw [if_neg there] at done
      cases done

/-- What is made around a path and at the path lies along the directory, also when not all
of it can be made.  The induction is on the directories around. -/
theorem madeAlong_makeDirectoryWithin (tree : Tree) (leads : LeadsAlong directory path)
    (alike : isAbsolute path = isAbsolute directory) {enclosing : List String}
    (beginning : enclosing.reverse <+: components directory) :
    MadeAlong directory tree (tree.makeDirectoryWithin path enclosing).2 ∧
      ((tree.makeDirectoryWithin path enclosing).1 = .ok () ->
        (tree.makeDirectoryWithin path enclosing).2.isDirectory path = true) := by
  induction enclosing generalizing path with
  | nil =>
      rw [makeDirectoryWithin]
      exact madeAlong_makeDirectoryAfter leads (.refl directory tree)
  | cons innermost outer inductionHypothesis =>
      have proper : ∀ name ∈ (innermost :: outer).reverse, IsName name :=
        fun name member => isName_of_mem_components (beginning.mem member)
      have shorter : outer.reverse <+: components directory := by
        rw [List.reverse_cons] at beginning
        exact (List.prefix_append _ _).trans beginning
      have around := inductionHypothesis (leadsAlong_withNames alike beginning)
        ((isAbsolute_withNames proper path).trans alike) shorter
      rw [makeDirectoryWithin]
      exact madeAlong_makeDirectoryAfter leads around.1

end Making

/-- Making directories makes them along the path, and when it succeeds the path leads to
a directory. -/
theorem makeDirectories_spec (tree : Tree) (path : String) :
    MadeAlong path tree (tree.makeDirectories path).2 ∧
      ((tree.makeDirectories path).1 = .ok () -> path ≠ "" ->
        (tree.makeDirectories path).2.isDirectory path = true) := by
  unfold makeDirectories
  split
  · next empty => exact ⟨.refl path tree, fun _ nonempty => absurd empty nonempty⟩
  · have beginning : (components path).dropLast.reverse.reverse <+: components path := by
      rw [List.reverse_reverse]
      exact List.dropLast_prefix _
    have made := madeAlong_makeDirectoryWithin tree (leadsAlong_components path) rfl beginning
    exact ⟨made.1, fun done _ => made.2 done⟩

/-! ## Cleaning -/

/-- What cleaning a place removes: the TypeScript files directly inside it. -/
def IsCleaned (around place : Place) (node : Node) : Prop :=
  Exists fun name : String => Exists fun content : List UInt8 =>
    isTypeScript name = true ∧ place = around ++ [name] ∧ node = .file content

/-- The test by which cleaning keeps an entry. -/
private theorem keeps_iff (around : Place) (entry : Place × Node) :
    (match entry.1.getLast?, entry.2 with
      | some name, .file _ => !(isTypeScript name && entry.1 = around ++ [name])
      | _, _ => true) = true ↔ ¬ IsCleaned around entry.1 entry.2 := by
  rcases entry with ⟨place, node⟩
  dsimp only
  split
  · next name content last =>
      rw [Bool.not_eq_true', Bool.and_eq_false_imp, decide_eq_false_iff_not]
      constructor
      · rintro other ⟨same, _, typeScript, rfl, _⟩
        rw [List.getLast?_concat, Option.some.injEq] at last
        subst last
        exact other typeScript rfl
      · intro kept typeScript there
        exact kept ⟨name, content, typeScript, there, rfl⟩
  · next other =>
      refine ⟨fun _ => ?_, fun _ => rfl⟩
      rintro ⟨name, content, _, rfl, rfl⟩
      exact other name content (List.getLast?_concat ..) rfl

/-- Cleaning needs a path that leads somewhere.  It removes the TypeScript files directly
inside that place, and nothing else. -/
theorem clean_spec {tree cleaned : Tree} {path : String} (done : tree.clean path = .ok cleaned) :
    cleaned.home = tree.home ∧ Exists fun around : Place =>
      tree.resolve path = .ok around ∧
        (∀ place node, IsCleaned around place node -> cleaned.node? place ≠ some node) ∧
        ∀ place, (∀ node, tree.node? place = some node -> ¬ IsCleaned around place node) ->
          cleaned.node? place = tree.node? place := by
  unfold clean at done
  cases resolved : tree.resolve path with
  | error problem =>
      rw [resolved] at done
      cases done
  | ok around =>
      rw [resolved] at done
      cases done
      refine ⟨rfl, around, rfl, ?_, ?_⟩
      · intro place node removed found
        rw [node?] at found
        split at found
        · rcases removed with ⟨_, _, _, _, rfl⟩
          cases found
        · rcases List.lookup_eq_some_iff.mp found with ⟨before, after, split, _⟩
          have member : (place, node) ∈ before ++ (place, node) :: after := by simp
          rw [← split, List.mem_filter] at member
          exact (keeps_iff around (place, node)).mp member.2 removed
      · intro place kept
        unfold node? at kept ⊢
        change (if tree.isAround place then _ else _) = _
        split
        · rfl
        · next inside =>
            rw [if_neg inside] at kept
            apply lookup_filter
            intro node found
            exact (keeps_iff around (place, node)).mpr (kept node found)

/-- Cleaning lists no new directory. -/
theorem listsDirectory_of_clean {tree cleaned : Tree} {path : String} {place : Place}
    (done : tree.clean path = .ok cleaned) (lists : cleaned.ListsDirectory place) :
    tree.ListsDirectory place := by
  unfold clean at done
  split at done
  · cases done
  · cases done
    exact lists.imp id (fun member => (List.mem_filter.mp member).1)

/-- Cleaning leaves all directories where they are. -/
theorem keepsDirectories_clean {tree cleaned : Tree} {path : String}
    (done : tree.clean path = .ok cleaned) : KeepsDirectories tree cleaned := by
  rcases clean_spec done with ⟨home, around, _, _, unchanged⟩
  refine ⟨home, fun place directory => ?_⟩
  rw [unchanged place, directory]
  rintro node found ⟨name, content, _, _, rfl⟩
  rw [directory] at found
  cases found

/-! ## Writing -/

/-- A file can be written where a path leads to no directory and does not ask for one. -/
theorem writeText_eq_ok_iff (tree : Tree) (path text : String) (changed : Tree) :
    tree.writeText path text = .ok changed ↔
      asksForDirectory path = false ∧
        Exists fun place : Place =>
          tree.resolve path = .ok place ∧ tree.node? place ≠ some .directory ∧
            changed = tree.set place (.file text.toUTF8.toList) := by
  unfold writeText write
  cases resolved : tree.resolve path with
  | error problem => simp [bind, Except.bind]
  | ok place =>
      simp only [bind, Except.bind, Except.ok.injEq, exists_eq_left']
      cases asks : asksForDirectory path <;> cases found : tree.node? place with
      | none => simp [eq_comm]
      | some node => cases node <;> simp [eq_comm]

/-- Writing leaves all directories where they are. -/
theorem keepsDirectories_set {tree : Tree} {place : Place}
    (other : tree.node? place ≠ some .directory) (content : List UInt8) :
    KeepsDirectories tree (tree.set place (.file content)) := by
  refine ⟨rfl, fun here directory => ?_⟩
  rw [node?_set tree (isAround_eq_false other), if_neg]
  · exact directory
  · rintro rfl
    exact other directory

/-- Write texts under names inside a directory, one after the other. -/
def writeAll (directory : String) (files : List (String × String)) (tree : Tree) :
    Except Problem Tree :=
  files.foldlM (fun tree file => tree.writeText (join directory file.1) file.2) tree

/-- Texts that are written under different names are all there afterwards, and their paths
lead to them; nothing else has changed.  The induction is on the texts that are left to
write. -/
theorem writeAll_spec {directory : String} {files : List (String × String)}
    {tree final : Tree} {place : Place} (proper : ∀ file ∈ files, IsFileName file.1)
    (distinct : (files.map Prod.fst).Nodup)
    (led : tree.follow (tree.startOf directory) (parts directory) = .ok place)
    (done : writeAll directory files tree = .ok final) :
    KeepsDirectories tree final ∧
      (∀ file ∈ files,
        final.resolve (join directory file.1) = .ok (place ++ [file.1]) ∧
          final.node? (place ++ [file.1]) = some (.file file.2.toUTF8.toList)) ∧
      ∀ other, (∀ file ∈ files, other ≠ place ++ [file.1]) ->
        final.node? other = tree.node? other := by
  unfold writeAll at done
  induction files generalizing tree with
  | nil =>
      cases done
      exact ⟨.refl _, nofun, fun _ _ => rfl⟩
  | cons file rest inductionHypothesis =>
      rw [List.forall_mem_cons] at proper
      rw [List.map_cons, List.nodup_cons] at distinct
      rw [List.foldlM_cons] at done
      cases first : tree.writeText (join directory file.1) file.2 with
      | error problem =>
          rw [first] at done
          cases done
      | ok changed =>
          rw [first] at done
          rcases (tree.writeText_eq_ok_iff ..).mp first with ⟨_, here, resolved, other, rfl⟩
          rcases resolve_join proper.1 resolved with ⟨around, followed, _, rfl⟩
          cases led.symm.trans followed
          have inside := isAround_eq_false other
          have keeps := keepsDirectories_set other file.2.toUTF8.toList
          rcases inductionHypothesis proper.2 distinct.2 (keeps.followFrom led) done with
            ⟨keepsLater, stored, unchanged⟩
          have notLater : ∀ later ∈ rest, place ++ [file.1] ≠ place ++ [later.1] := by
            intro later member same
            have sameName := List.singleton_inj.mp (List.append_cancel_left same)
            exact distinct.1 (List.mem_map.mpr ⟨later, member, sameName.symm⟩)
          -- The first file is not written over, because the others have other names.
          refine ⟨keeps.trans keepsLater, ?_, ?_⟩
          · rw [List.forall_mem_cons]
            refine ⟨⟨(keeps.trans keepsLater).resolve resolved, ?_⟩, stored⟩
            rw [unchanged _ notLater, node?_set tree inside, if_pos rfl]
          · intro elsewhere different
            rw [List.forall_mem_cons] at different
            rw [unchanged elsewhere different.2, node?_set tree inside, if_neg different.1]

end Tree
end Files
end OpenApiTypes
