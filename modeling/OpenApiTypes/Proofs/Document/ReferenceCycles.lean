import OpenApiTypes.Proofs.Document.ReferenceChain

namespace OpenApiTypes
namespace Document

/-!
# References that are followed to their end

A reference points to a place in the document, and the same place can be spelled in
several ways.  A chain of references therefore has three possible ends: a definition, a
place where nothing stands, or a place that it has been to before.  The loop that follows
references knows none of this.  It carries no bound, and it stops by itself only when it
meets a spelling again.

The main statement here is that the loop comes to an end for every document and every
reference, within a number of rounds that the document gives, and that it finds a
definition or nothing according to the end of the chain.
-/

/-! ## Places and chains -/

/-- Where the entry of a path item reference stands. -/
inductive EntryPlace where
  | path (name : String)
  | component (name : String)
deriving DecidableEq

/-- The place that a reference points to: the registry `pathItems` selects the components,
any other registry the paths, and the decoded last segment is the name. -/
def placeOf (target : String) : EntryPlace :=
  if Pointer.registryName? target = some "pathItems" then .component (Pointer.targetName target)
  else .path (Pointer.targetName target)

/-- An entry stands at a place of the document. -/
inductive StandsAt (document : Document) : EntryPlace -> Referable PathItem -> Prop
  | path {name : String} {entry : Referable PathItem}
      (member : (name, entry) ∈ document.paths.entries) : StandsAt document (.path name) entry
  | component {name : String} {entry : Referable PathItem} {components : Components}
      (declared : document.components = some components)
      (member : (name, entry) ∈ components.pathItems.entries) :
      StandsAt document (.component name) entry

/-- The entry that a reference names is the one at its place. -/
theorem pathItemEntry?_eq_some_iff (document : Document) (target : String)
    (entry : Referable PathItem) :
    document.pathItemEntry? target = some entry ↔ document.StandsAt (placeOf target) entry := by
  unfold pathItemEntry? placeOf
  split
  · rw [Option.bind_eq_some_iff]
    constructor
    · rintro ⟨components, declared, found⟩
      exact .component declared ((Registry.get?_eq_some_iff _ _ _).mp found)
    · rintro (_ | ⟨declared, member⟩)
      exact ⟨_, declared, (Registry.get?_eq_some_iff _ _ _).mpr member⟩
  · rw [Registry.get?_eq_some_iff]
    constructor
    · exact .path
    · rintro (member | _)
      exact member

/-- A reference is the first of a chain, or it is met later on it. -/
inductive Meets (document : Document) : String -> String -> Prop
  | first (target : String) : Meets document target target
  | later {target next last : String}
      (found : document.StandsAt (placeOf target) (.reference next))
      (rest : Meets document next last) : Meets document target last

/-- A chain reaches a definition: one stands at the place of its last reference. -/
def Arrives (document : Document) (target : String) (item : PathItem) : Prop :=
  ∃ last, document.Meets target last ∧ document.StandsAt (placeOf last) (.inline item)

/-- A chain breaks off: nothing stands at the place of its last reference. -/
def BreaksOff (document : Document) (target : String) : Prop :=
  ∃ last, document.Meets target last ∧
    forall entry : Referable PathItem, ¬ document.StandsAt (placeOf last) entry

/-- A chain goes round in a circle: it comes back to a place, however that place is
spelled. -/
def Circles (document : Document) (target : String) : Prop :=
  ∃ earlier next later, document.Meets target earlier ∧
    document.StandsAt (placeOf earlier) (.reference next) ∧
    document.Meets next later ∧ placeOf later = placeOf earlier

theorem Meets.trans {document : Document} {first second third : String}
    (start : document.Meets first second) (continuation : document.Meets second third) :
    document.Meets first third := by
  induction start with
  | first target => exact continuation
  | later found _ inductionHypothesis => exact .later found (inductionHypothesis continuation)

/-! ## Chains with an end -/

/-- A reference that reaches an item at some distance arrives there, and conversely. -/
theorem arrives_iff (document : Document) (target : String) (item : PathItem) :
    document.Arrives target item ↔
      Exists fun distance : Nat => document.ReachesIn distance target item := by
  constructor
  · rintro ⟨last, chain, found⟩
    induction chain with
    | first target => exact ⟨0, .direct ((pathItemEntry?_eq_some_iff ..).mpr found)⟩
    | later step _ inductionHypothesis =>
        rcases inductionHypothesis found with ⟨distance, rest⟩
        exact ⟨distance + 1, .further ((pathItemEntry?_eq_some_iff ..).mpr step) rest⟩
  · rintro ⟨distance, chain⟩
    induction chain with
    | direct found => exact ⟨_, .first _, (pathItemEntry?_eq_some_iff ..).mp found⟩
    | further found _ inductionHypothesis =>
        rcases inductionHypothesis with ⟨last, rest, stands⟩
        exact ⟨last, .later ((pathItemEntry?_eq_some_iff ..).mp found) rest, stands⟩

/-- Every reference of a chain that reaches an item reaches it too, and is no farther away
than the first one. -/
theorem Meets.reachesIn {document : Document} {target later : String} {item : PathItem}
    {distance : Nat} (met : document.Meets target later)
    (chain : document.ReachesIn distance target item) :
    Exists fun nearer : Nat => nearer ≤ distance ∧ document.ReachesIn nearer later item := by
  induction met generalizing distance with
  | first target => exact ⟨distance, Nat.le_refl distance, chain⟩
  | later step _ inductionHypothesis =>
      have found := (pathItemEntry?_eq_some_iff ..).mpr step
      cases chain with
      | direct otherFound => cases found.symm.trans otherFound
      | further otherFound rest =>
          cases found.symm.trans otherFound
          rcases inductionHypothesis rest with ⟨nearer, less, reached⟩
          exact ⟨nearer, Nat.le_succ_of_le less, reached⟩

/-- What a reference reaches depends on its place alone. -/
theorem ReachesIn.of_place_eq {document : Document} {target other : String} {item : PathItem}
    {distance : Nat} (chain : document.ReachesIn distance target item)
    (same : placeOf other = placeOf target) : document.ReachesIn distance other item := by
  have alike (entry : Referable PathItem) (found : document.pathItemEntry? target = some entry) :
      document.pathItemEntry? other = some entry := by
    rwa [pathItemEntry?_eq_some_iff, same, ← pathItemEntry?_eq_some_iff]
  cases chain with
  | direct found => exact .direct (alike _ found)
  | further found rest => exact .further (alike _ found) rest

theorem BreaksOff.not_arrives {document : Document} {target : String} {item : PathItem}
    (broken : document.BreaksOff target) : ¬ document.Arrives target item := by
  intro arrives
  rcases (arrives_iff ..).mp arrives with ⟨distance, chain⟩
  rcases broken with ⟨last, met, absent⟩
  rcases met.reachesIn chain with ⟨_, _, rest⟩
  cases rest with
  | direct found => exact absent _ ((pathItemEntry?_eq_some_iff ..).mp found)
  | further found _ => exact absent _ ((pathItemEntry?_eq_some_iff ..).mp found)

/-- A chain that goes round in a circle reaches nothing: a place has one distance from an
item, and coming back to it would shorten that distance. -/
theorem Circles.not_arrives {document : Document} {target : String} {item : PathItem}
    (circle : document.Circles target) : ¬ document.Arrives target item := by
  intro arrives
  rcases (arrives_iff ..).mp arrives with ⟨distance, chain⟩
  rcases circle with ⟨earlier, next, later, met, step, again, same⟩
  rcases met.reachesIn chain with ⟨outer, _, fromEarlier⟩
  have found := (pathItemEntry?_eq_some_iff ..).mpr step
  cases fromEarlier with
  | direct otherFound => cases found.symm.trans otherFound
  | @further _ _ _ inner otherFound rest =>
      cases found.symm.trans otherFound
      rcases again.reachesIn rest with ⟨nearer, less, fromLater⟩
      have back := fromLater.of_place_eq same.symm
      have distances := (back.unique (.further found rest)).1
      omega

/-! ## The loop -/

/-- The loop that follows references, with no bound: from the references that it has
followed and the next one it comes to an outcome after a number of rounds. -/
inductive Halts (document : Document) : List String -> String -> Nat -> Option PathItem -> Prop
  /-- A reference that has been followed before ends the loop. -/
  | repeated {visited : List String} {target : String} (again : target ∈ visited) :
      Halts document visited target 1 none
  | missing {visited : List String} {target : String} (fresh : target ∉ visited)
      (absent : forall entry : Referable PathItem, ¬ document.StandsAt (placeOf target) entry) :
      Halts document visited target 1 none
  | arrived {visited : List String} {target : String} {item : PathItem}
      (fresh : target ∉ visited) (found : document.StandsAt (placeOf target) (.inline item)) :
      Halts document visited target 1 (some item)
  /-- A reference that names another one is remembered. -/
  | further {visited : List String} {target next : String} {rounds : Nat}
      {outcome : Option PathItem} (fresh : target ∉ visited)
      (found : document.StandsAt (placeOf target) (.reference next))
      (rest : Halts document (target :: visited) next rounds outcome) :
      Halts document visited target (rounds + 1) outcome

theorem StandsAt.unique {document : Document} {place : EntryPlace}
    {first second : Referable PathItem} (one : document.StandsAt place first)
    (other : document.StandsAt place second) : first = second := by
  cases one with
  | path member =>
      cases other with
      | path otherMember => exact document.paths.value_unique member otherMember
  | component declared member =>
      cases other with
      | component otherDeclared otherMember =>
          cases declared.symm.trans otherDeclared
          exact Registry.value_unique _ member otherMember

/-- The loop has one outcome, after one number of rounds. -/
theorem Halts.unique {document : Document} {visited : List String} {target : String}
    {rounds otherRounds : Nat} {outcome otherOutcome : Option PathItem}
    (one : document.Halts visited target rounds outcome)
    (other : document.Halts visited target otherRounds otherOutcome) :
    otherRounds = rounds ∧ otherOutcome = outcome := by
  induction one generalizing otherRounds otherOutcome with
  | repeated again =>
      cases other with
      | repeated => exact ⟨rfl, rfl⟩
      | missing fresh _ | arrived fresh _ | further fresh _ _ => exact absurd again fresh
  | missing fresh absent =>
      cases other with
      | repeated again => exact absurd again fresh
      | missing => exact ⟨rfl, rfl⟩
      | arrived _ found | further _ found _ => exact absurd found (absent _)
  | arrived fresh found =>
      cases other with
      | repeated again => exact absurd again fresh
      | missing _ absent => exact absurd found (absent _)
      | arrived _ otherFound =>
          cases found.unique otherFound
          exact ⟨rfl, rfl⟩
      | further _ otherFound _ => cases found.unique otherFound
  | further fresh found _ inductionHypothesis =>
      cases other with
      | repeated again => exact absurd again fresh
      | missing _ absent => exact absurd found (absent _)
      | arrived _ otherFound => cases found.unique otherFound
      | further _ otherFound otherRest =>
          cases found.unique otherFound
          rcases inductionHypothesis otherRest with ⟨sameRounds, sameOutcome⟩
          exact ⟨congrArg (· + 1) sameRounds, sameOutcome⟩

/-- The loop cannot go on for ever: the references that it remembers are distinct, and all
but the first one stand in the document.  When as many are remembered as there are, the
next one is among them. -/
private theorem exists_halts_followPathItem {document : Document} {start : String} {fuel : Nat}
    {visited : List String} {target : String} (distinct : visited.Nodup)
    (stored : visited ⊆ start :: document.referenceTargets)
    (next : target ∈ start :: document.referenceTargets)
    (enough : document.pathItemCount + 2 ≤ fuel + visited.length) :
    ∃ rounds, rounds ≤ fuel ∧
      document.Halts visited target rounds (document.followPathItem visited fuel target) := by
  have bound := document.length_referenceTargets_le
  induction fuel generalizing visited target with
  | zero =>
      have few := distinct.length_le_of_subset stored
      rw [List.length_cons] at few
      omega
  | succ fuel inductionHypothesis =>
      by_cases again : target ∈ visited
      · refine ⟨1, Nat.le_add_left 1 fuel, ?_⟩
        rw [followPathItem, if_pos (by simpa using again)]
        exact .repeated again
      · rw [followPathItem, if_neg (by simpa using again)]
        cases found : document.pathItemEntry? target with
        | none =>
            refine ⟨1, Nat.le_add_left 1 fuel, .missing again ?_⟩
            intro entry stands
            cases found.symm.trans ((pathItemEntry?_eq_some_iff ..).mpr stands)
        | some entry =>
            have stands := (pathItemEntry?_eq_some_iff ..).mp found
            cases entry with
            | inline item => exact ⟨1, Nat.le_add_left 1 fuel, .arrived again stands⟩
            | reference following =>
                have onward := inductionHypothesis (List.nodup_cons.mpr ⟨again, distinct⟩)
                  (List.cons_subset.mpr ⟨next, stored⟩)
                  (List.mem_cons_of_mem start (mem_referenceTargets found))
                  (by rw [List.length_cons]; omega)
                rcases onward with ⟨rounds, few, rest⟩
                exact ⟨rounds + 1, Nat.succ_le_succ few, .further again stands rest⟩

/-- A loop that finds nothing has met the end of a chain: a place without an entry, or a
place to which it came back.  Every reference that it remembers leads on to the current
one, so a remembered reference that comes again closes a circle. -/
private theorem Halts.breaksOff_or_circles {document : Document} {start target : String}
    {visited : List String} {rounds : Nat} {outcome : Option PathItem}
    (halts : document.Halts visited target rounds outcome) (nothing : outcome = none)
    (met : document.Meets start target)
    (followed : forall earlier : String, earlier ∈ visited ->
      document.Meets start earlier ∧ ∃ next,
        document.StandsAt (placeOf earlier) (.reference next) ∧ document.Meets next target) :
    document.BreaksOff start ∨ document.Circles start := by
  induction halts with
  | @repeated visited target again =>
      rcases followed target again with ⟨_, next, found, back⟩
      exact Or.inr ⟨target, next, target, met, found, back, rfl⟩
  | missing _ absent => exact Or.inl ⟨_, met, absent⟩
  | arrived => cases nothing
  | further _ found _ inductionHypothesis =>
      have step := Meets.later found (.first _)
      apply inductionHypothesis nothing (met.trans step)
      intro earlier member
      rcases List.mem_cons.mp member with rfl | member
      · exact ⟨met, _, found, .first _⟩
      · rcases followed earlier member with ⟨onChain, next, stands, onward⟩
        exact ⟨onChain, next, stands, onward.trans step⟩

/-- For every document and every reference, the loop that follows references ends: it has
one outcome, after at most two rounds more than the document has entries.  The outcome is
an item exactly when the chain of the reference arrives at that item, and it is nothing
exactly when the chain breaks off at a place where nothing stands or goes round in a
circle of places, however they are spelled. -/
theorem pathItem?_spec (document : Document) (target : String) :
    (∃ rounds, rounds ≤ document.pathItemCount + 2 ∧
      forall (others : Nat) (outcome : Option PathItem),
        document.Halts [] target others outcome ↔
          others = rounds ∧ outcome = document.pathItem? target) ∧
    (forall item : PathItem,
      document.pathItem? target = some item ↔ document.Arrives target item) ∧
    (document.pathItem? target = none ↔
      document.BreaksOff target ∨ document.Circles target) := by
  have ends : ∃ rounds, rounds ≤ document.pathItemCount + 2 ∧
      document.Halts [] target rounds (document.pathItem? target) :=
    @exists_halts_followPathItem document target _ _ _ List.nodup_nil (List.nil_subset _)
      (List.mem_cons_self ..) (Nat.le_refl _)
  have items (item : PathItem) :
      document.pathItem? target = some item ↔ document.Arrives target item := by
    rw [pathItem?_eq_some_iff, reaches_reference_iff, arrives_iff]
  rcases ends with ⟨rounds, few, halts⟩
  refine ⟨⟨rounds, few, ?_⟩, items, ?_⟩
  · intro others outcome
    constructor
    · exact halts.unique
    · rintro ⟨rfl, rfl⟩
      exact halts
  · constructor
    · intro nothing
      exact halts.breaksOff_or_circles nothing (.first target) (by simp)
    · intro lost
      rw [Option.eq_none_iff_forall_ne_some]
      intro item found
      have arrives := (items item).mp found
      rcases lost with broken | circle
      · exact broken.not_arrives arrives
      · exact circle.not_arrives arrives

/-- Two paths that refer to each other, one of them by a spelling that no other reference
uses. -/
def twoSpellings : Document :=
  ⟨⟨[("/a", .reference "#/paths/~1b"), ("/b", .reference "#/paths/%2Fa")], by decide⟩, none⟩

example : twoSpellings.pathItem? "#/paths/~1a" = none := by decide +kernel

end Document
end OpenApiTypes
