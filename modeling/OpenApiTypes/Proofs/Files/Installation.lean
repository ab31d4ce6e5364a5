import OpenApiTypes.Proofs.Files.Changes

namespace OpenApiTypes
namespace Files
namespace Tree

/-!
# Installing files in a directory

A directory is made, then cleaned when that is asked for, and then receives files.  The
three changes together are described by what is at each place afterwards: the files that
were installed, no other TypeScript file next to them when the directory was cleaned, and
everywhere else what was there before, except that directories on the way were made.
-/

/-- A directory is made, cleaned when that is asked for, and receives files. -/
def Installs (directory : String) (cleans : Bool) (files : List (String × String))
    (before after : Tree) : Prop :=
  (before.makeDirectories directory).1 = .ok () ∧
    Exists fun cleaned : Tree =>
      (if cleans then (before.makeDirectories directory).2.clean directory = .ok cleaned
        else cleaned = (before.makeDirectories directory).2) ∧
      writeAll directory files cleaned = .ok after

/-- What is where after files were installed in the directory at a place. -/
structure InstalledAt (place : Place) (directory : String) (cleans : Bool)
    (files : List (String × String)) (before after : Tree) : Prop where
  /-- The working directory is the same. -/
  home : after.home = before.home
  /-- The directory is at the place, from the root or from the working directory on. -/
  leads : after.follow (if directory.startsWith "/" then [] else after.home) (parts directory) =
    .ok place
  isDirectory : after.node? place = some .directory
  /-- Each file is directly inside it, with exactly its text. -/
  stored : ∀ file ∈ files, after.node? (place ++ [file.1]) = some (.file file.2.toUTF8.toList)
  /-- Each file is found under its name in the directory. -/
  found : ∀ file ∈ files,
    after.at? (join directory file.1) = .ok (.file file.2.toUTF8.toList)
  /-- When the directory is cleaned, these are the TypeScript files directly inside it. -/
  alone : cleans = true -> ∀ name,
    (isTypeScript name = true ∧ Exists fun content : List UInt8 =>
      after.node? (place ++ [name]) = some (.file content)) ↔ name ∈ files.map Prod.fst
  /-- What is neither installed nor cleaned away is what it was, or it is a new directory
  on the way. -/
  kept : ∀ other, (∀ file ∈ files, other ≠ place ++ [file.1]) ->
    (cleans = true -> ∀ node, before.node? other = some node -> ¬ IsCleaned place other node) ->
      after.node? other = before.node? other ∨
        (before.node? other = none ∧ after.node? other = some .directory ∧
          Exists fun way : List String =>
            way <+: components directory ∧
              after.follow (after.startOf directory) way = .ok other)

/-- A directory that could be made is where its names lead. -/
theorem exists_place_of_makeDirectories {tree : Tree} {directory : String}
    (done : (tree.makeDirectories directory).1 = .ok ()) :
    Exists fun place : Place =>
      (tree.makeDirectories directory).2.follow
          ((tree.makeDirectories directory).2.startOf directory) (parts directory) = .ok place ∧
        (tree.makeDirectories directory).2.node? place = some .directory := by
  by_cases empty : directory = ""
  · subst empty
    rw [parts_empty]
    exact ⟨_, rfl, node?_startOf _ ""⟩
  · have there := (tree.makeDirectories_spec directory).2 done empty
    rcases (isDirectory_iff _ directory).mp there with ⟨place, resolved, found⟩
    exact ⟨place, ((resolve_eq_ok_iff _ directory place).mp resolved).2, found⟩

/-- Cleaning when it is asked for. -/
private theorem cleaning_spec {made cleaned : Tree} {directory : String} {cleans : Bool}
    {place : Place} (led : made.follow (made.startOf directory) (parts directory) = .ok place)
    (done : if cleans then made.clean directory = .ok cleaned else cleaned = made) :
    KeepsDirectories made cleaned ∧
      (cleans = true -> ∀ other node, IsCleaned place other node ->
        cleaned.node? other ≠ some node) ∧
      ∀ other, (cleans = true -> ∀ node, made.node? other = some node ->
          ¬ IsCleaned place other node) -> cleaned.node? other = made.node? other := by
  cases cleans with
  | false =>
      rw [if_neg Bool.false_ne_true] at done
      subst done
      exact ⟨.refl _, fun impossible => absurd impossible Bool.false_ne_true, fun _ _ => rfl⟩
  | true =>
      rw [if_pos rfl] at done
      rcases clean_spec done with ⟨_, around, resolved, removed, unchanged⟩
      have followed := ((resolve_eq_ok_iff _ directory around).mp resolved).2
      cases led.symm.trans followed
      exact ⟨keepsDirectories_clean done, fun _ => removed,
        fun other notCleaned => unchanged other (notCleaned rfl)⟩

/-- TypeScript files with different names are installed at the place of the directory. -/
theorem installedAt_of_installs {directory : String} {cleans : Bool}
    {files : List (String × String)} {before after : Tree}
    (proper : ∀ file ∈ files, IsFileName file.1)
    (typeScript : ∀ file ∈ files, isTypeScript file.1 = true)
    (distinct : (files.map Prod.fst).Nodup)
    (done : Installs directory cleans files before after) :
    Exists fun place : Place => InstalledAt place directory cleans files before after := by
  rcases done with ⟨made, cleaned, cleaning, written⟩
  rcases exists_place_of_makeDirectories made with ⟨place, led, there⟩
  have along := (before.makeDirectories_spec directory).1
  rcases cleaning_spec led cleaning with ⟨keepsCleaned, removed, unchanged⟩
  rcases writeAll_spec proper distinct (keepsCleaned.followFrom led) written with
    ⟨keepsWritten, stored, elsewhere⟩
  have keeps := keepsCleaned.trans keepsWritten
  refine ⟨place, keeps.home.trans along.home, keeps.followFrom led, keeps.directories place there,
    fun file member => (stored file member).2, ?_, ?_, ?_⟩
  · intro file member
    rcases stored file member with ⟨resolved, there⟩
    exact at?_eq_file resolved there (asksForDirectory_join directory (proper file member).toIsName)
  · intro cleans name
    constructor
    · rintro ⟨named, content, found⟩
      by_contra other
      have notWritten : ∀ file ∈ files, place ++ [name] ≠ place ++ [file.1] := by
        intro file member same
        have sameName := List.singleton_inj.mp (List.append_cancel_left same)
        exact other (List.mem_map.mpr ⟨file, member, sameName.symm⟩)
      rw [elsewhere _ notWritten] at found
      exact removed cleans _ _ ⟨name, content, named, rfl, rfl⟩ found
    · intro member
      rcases List.mem_map.mp member with ⟨file, written, rfl⟩
      exact ⟨typeScript file written, _, (stored file written).2⟩
  · intro other notWritten notCleaned
    have same : after.node? other = (before.makeDirectories directory).2.node? other := by
      rw [elsewhere other notWritten]
      refine unchanged other (fun cleans node found => ?_)
      -- A directory that was made on the way is no file, so it is not cleaned away.
      rcases along.nodes other with sameBefore | ⟨_, new, _⟩
      · exact notCleaned cleans node (sameBefore.symm.trans found)
      · rintro ⟨_, _, _, _, rfl⟩
        rw [new] at found
        cases found
    rw [same]
    rcases along.nodes other with sameBefore | ⟨absent, new, onWay⟩
    · exact .inl sameBefore
    · exact .inr ⟨absent, new, keeps.isOnWay onWay⟩

/-! ## When files can be installed -/

/-- Whether a file can be written under a name inside a directory: the path leads
somewhere, and there is no directory in its place. -/
def IsOpen (tree : Tree) (directory name : String) : Prop :=
  Exists fun place : Place =>
    tree.resolve (join directory name) = .ok place ∧ tree.node? place ≠ some .directory

/-- Writing one file changes nothing about where files of other names can be written. -/
private theorem isOpen_set_iff {tree : Tree} {directory name other : String} {place : Place}
    (proper : IsFileName name) (otherProper : IsFileName other) (different : other ≠ name)
    (resolved : tree.resolve (join directory name) = .ok place)
    (unoccupied : tree.node? place ≠ some .directory) (content : List UInt8) :
    IsOpen (tree.set place (.file content)) directory other ↔ IsOpen tree directory other := by
  have inside := isAround_eq_false unoccupied
  have forward := keepsDirectories_set unoccupied content
  have backward : KeepsDirectories (tree.set place (.file content)) tree := by
    refine ⟨rfl, fun here found => ?_⟩
    rw [node?_set tree inside] at found
    split at found
    · cases found
    · exact found
  have elsewhere {there : Place} (led : tree.resolve (join directory other) = .ok there) :
      there ≠ place := by
    rcases resolve_join proper resolved with ⟨around, followed, _, rfl⟩
    rcases resolve_join otherProper led with ⟨otherAround, otherFollowed, _, rfl⟩
    cases followed.symm.trans otherFollowed
    intro same
    exact different (List.singleton_inj.mp (List.append_cancel_left same))
  constructor
  · rintro ⟨there, led, free⟩
    have before := backward.resolve led
    rw [node?_set tree inside, if_neg (elsewhere before)] at free
    exact ⟨there, before, free⟩
  · rintro ⟨there, led, free⟩
    refine ⟨there, forward.resolve led, ?_⟩
    rw [node?_set tree inside, if_neg (elsewhere led)]
    exact free

/-- Files can be written one after the other exactly when each of them can be written. -/
theorem exists_writeAll_iff {directory : String} {files : List (String × String)} {tree : Tree}
    (proper : ∀ file ∈ files, IsFileName file.1) (distinct : (files.map Prod.fst).Nodup) :
    (Exists fun final : Tree => writeAll directory files tree = .ok final) ↔
      ∀ name ∈ files.map Prod.fst, IsOpen tree directory name := by
  unfold writeAll
  induction files generalizing tree with
  | nil => exact ⟨fun _ => nofun, fun _ => ⟨tree, rfl⟩⟩
  | cons file rest inductionHypothesis =>
      rw [List.forall_mem_cons] at proper
      rw [List.map_cons, List.nodup_cons] at distinct
      rw [List.foldlM_cons, List.map_cons, List.forall_mem_cons]
      have asks := asksForDirectory_join directory proper.1.toIsName
      have others {place : Place} (resolved : tree.resolve (join directory file.1) = .ok place)
          (unoccupied : tree.node? place ≠ some .directory) (content : List UInt8) :
          (∀ name ∈ rest.map Prod.fst,
              IsOpen (tree.set place (.file content)) directory name) ↔
            ∀ name ∈ rest.map Prod.fst, IsOpen tree directory name := by
        refine forall₂_congr (fun name member => ?_)
        rcases List.mem_map.mp member with ⟨later, laterMember, rfl⟩
        refine isOpen_set_iff proper.1 (proper.2 later laterMember) ?_ resolved unoccupied content
        intro same
        exact distinct.1 (same ▸ member)
      constructor
      · rintro ⟨final, done⟩
        cases first : tree.writeText (join directory file.1) file.2 with
        | error problem =>
            rw [first] at done
            cases done
        | ok changed =>
            rw [first] at done
            rcases (tree.writeText_eq_ok_iff ..).mp first with ⟨_, place, resolved, free, rfl⟩
            have later := (inductionHypothesis proper.2 distinct.2).mp ⟨final, done⟩
            exact ⟨⟨place, resolved, free⟩, (others resolved free _).mp later⟩
      · rintro ⟨⟨place, resolved, free⟩, later⟩
        have first := (tree.writeText_eq_ok_iff (join directory file.1) file.2 _).mpr
          ⟨asks, place, resolved, free, rfl⟩
        rw [first]
        exact (inductionHypothesis proper.2 distinct.2).mpr ((others resolved free _).mpr later)

/-- Whether a directory can be made, cleaned when that is asked for, and then receive files
of the given names. -/
def CanReceive (directory : String) (cleans : Bool) (names : List String) (tree : Tree) :
    Prop :=
  (tree.makeDirectories directory).1 = .ok () ∧
    Exists fun cleaned : Tree =>
      (if cleans then (tree.makeDirectories directory).2.clean directory = .ok cleaned
        else cleaned = (tree.makeDirectories directory).2) ∧
      ∀ name ∈ names, IsOpen cleaned directory name

theorem exists_installs_iff {directory : String} {cleans : Bool}
    {files : List (String × String)} {tree : Tree}
    (proper : ∀ file ∈ files, IsFileName file.1) (distinct : (files.map Prod.fst).Nodup) :
    (Exists fun after : Tree => Installs directory cleans files tree after) ↔
      CanReceive directory cleans (files.map Prod.fst) tree := by
  constructor
  · rintro ⟨after, made, cleaned, cleaning, written⟩
    exact ⟨made, cleaned, cleaning, (exists_writeAll_iff proper distinct).mp ⟨after, written⟩⟩
  · rintro ⟨made, cleaned, cleaning, free⟩
    rcases (exists_writeAll_iff proper distinct).mpr free with ⟨after, written⟩
    exact ⟨after, made, cleaned, cleaning, written⟩

end Tree
end Files
end OpenApiTypes
