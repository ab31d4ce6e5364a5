import OpenApiTypes.Document.Resolution
import OpenApiTypes.Proofs.Registry.Lookup
import Mathlib.Data.List.Nodup

namespace OpenApiTypes
namespace Document

/-!
# Chains of path item references

Following references is bounded and remembers the spellings it has followed.  Neither
the bound nor the memory is part of what a reference means: it means the item at the end
of the chain of entries that it starts, when that chain has an end.  The main statement
here is that following a reference gives an item exactly when the chain reaches it.

The bound suffices because the spellings along a chain that reaches an item are
distinct, and all but the first one stand in the document.  They are distinct because
each spelling has one distance from the item, and the distance shrinks at every step.
-/

/-- The item at the end of the chain of references that starts at an entry. -/
inductive Reaches (document : Document) : Referable PathItem -> PathItem -> Prop
  /-- A definition in place is the end of its chain. -/
  | inline (item : PathItem) : Reaches document (.inline item) item
  /-- A reference reaches what the entry that it names reaches. -/
  | reference {target : String} {entry : Referable PathItem} {item : PathItem}
      (found : document.pathItemEntry? target = some entry)
      (later : Reaches document entry item) : Reaches document (.reference target) item

/-- A reference reaches an item after a number of further references. -/
inductive ReachesIn (document : Document) : Nat -> String -> PathItem -> Prop
  | direct {target : String} {item : PathItem}
      (found : document.pathItemEntry? target = some (.inline item)) :
      ReachesIn document 0 target item
  | further {target next : String} {item : PathItem} {distance : Nat}
      (found : document.pathItemEntry? target = some (.reference next))
      (later : ReachesIn document distance next item) :
      ReachesIn document (distance + 1) target item

/-! ## One chain, one end -/

/-- A chain has one end, at one distance. -/
theorem ReachesIn.unique {document : Document} {target : String} {first second : Nat}
    {firstItem secondItem : PathItem} (firstChain : document.ReachesIn first target firstItem)
    (secondChain : document.ReachesIn second target secondItem) :
    first = second ∧ firstItem = secondItem := by
  induction firstChain generalizing second with
  | direct found =>
      cases secondChain with
      | direct otherFound =>
          have same := Option.some.inj (found.symm.trans otherFound)
          exact ⟨rfl, Referable.inline.inj same⟩
      | further otherFound _ => cases found.symm.trans otherFound
  | further found _ inductionHypothesis =>
      cases secondChain with
      | direct otherFound => cases found.symm.trans otherFound
      | further otherFound later =>
          have same := Referable.reference.inj (Option.some.inj (found.symm.trans otherFound))
          subst same
          have ends := inductionHypothesis later
          exact ⟨congrArg (· + 1) ends.1, ends.2⟩

/-- A reference reaches an item exactly when it does so at some distance. -/
theorem reaches_reference_iff (document : Document) (target : String) (item : PathItem) :
    document.Reaches (.reference target) item ↔
      Exists fun distance : Nat => document.ReachesIn distance target item := by
  constructor
  · intro chain
    generalize start : Referable.reference target = entry at chain
    induction chain generalizing target with
    | inline item => cases start
    | @reference named entry item found later inductionHypothesis =>
        cases start
        cases entry with
        | inline definition =>
            cases later
            exact ⟨0, .direct found⟩
        | reference next =>
            rcases inductionHypothesis next rfl with ⟨distance, rest⟩
            exact ⟨distance + 1, .further found rest⟩
  · rintro ⟨distance, chain⟩
    induction chain with
    | direct found => exact .reference found (.inline _)
    | further found _ inductionHypothesis => exact .reference found inductionHypothesis

/-! ## The bound on chains -/

/-- The references that stand in the entries of a registry. -/
def storedTargets (entries : List (String × Referable PathItem)) : List String :=
  entries.filterMap (fun entry =>
    match entry.2 with
    | .reference target => some target
    | .inline _ => none)

/-- The references that stand in the entries that references may name. -/
def referenceTargets (document : Document) : List String :=
  storedTargets document.paths.entries ++
    match document.components with
    | some components => storedTargets components.pathItems.entries
    | none => []

theorem length_referenceTargets_le (document : Document) :
    document.referenceTargets.length ≤ document.pathItemCount := by
  rw [referenceTargets, List.length_append, pathItemCount]
  apply Nat.add_le_add
  · exact List.length_filterMap_le _ _
  · cases document.components with
    | none => exact Nat.le_refl 0
    | some components => exact List.length_filterMap_le _ _

private theorem mem_storedTargets {registry : Registry (Referable PathItem)}
    {name target : String} (found : registry.get? name = some (.reference target)) :
    target ∈ storedTargets registry.entries :=
  List.mem_filterMap.mpr ⟨_, (registry.get?_eq_some_iff name _).mp found, rfl⟩

/-- A reference that is met by following another one stands in the document. -/
theorem mem_referenceTargets {document : Document} {target next : String}
    (found : document.pathItemEntry? target = some (.reference next)) :
    next ∈ document.referenceTargets := by
  unfold pathItemEntry? at found
  rw [referenceTargets, List.mem_append]
  split at found
  · rcases Option.bind_eq_some_iff.mp found with ⟨components, declared, inside⟩
    rw [declared]
    exact Or.inr (mem_storedTargets inside)
  · exact Or.inl (mem_storedTargets found)

/-- The references after the first one along a chain that reaches an item: as many as
the distance says, distinct, and each nearer to the item than the first one. -/
private theorem ReachesIn.followed {document : Document} {target : String} {item : PathItem}
    {distance : Nat} (chain : document.ReachesIn distance target item) :
    Exists fun followed : List String =>
      followed.length = distance ∧ followed.Nodup ∧
        (forall next, next ∈ followed -> next ∈ document.referenceTargets) ∧
        forall next, next ∈ followed -> Exists fun nearer : Nat =>
          nearer < distance ∧ document.ReachesIn nearer next item := by
  induction chain with
  | direct found => exact ⟨[], rfl, List.nodup_nil, by simp, by simp⟩
  | @further target next item distance found later inductionHypothesis =>
      rcases inductionHypothesis with ⟨followed, count, distinct, stored, near⟩
      have fresh : next ∉ followed := by
        intro again
        rcases near next again with ⟨nearer, less, other⟩
        have same := (other.unique later).1
        omega
      refine ⟨next :: followed, congrArg (· + 1) count, List.nodup_cons.mpr ⟨fresh, distinct⟩,
        ?_, ?_⟩
      · intro member present
        rcases List.mem_cons.mp present with rfl | present
        · exact mem_referenceTargets found
        · exact stored member present
      · intro member present
        rcases List.mem_cons.mp present with rfl | present
        · exact ⟨distance, Nat.lt_succ_self distance, later⟩
        · rcases near member present with ⟨nearer, less, rest⟩
          exact ⟨nearer, Nat.lt_succ_of_lt less, rest⟩

/-- A chain that reaches an item is no longer than there are entries. -/
theorem ReachesIn.distance_le {document : Document} {target : String} {item : PathItem}
    {distance : Nat} (chain : document.ReachesIn distance target item) :
    distance ≤ document.pathItemCount := by
  rcases chain.followed with ⟨followed, count, distinct, stored, _⟩
  calc
    distance = followed.length := count.symm
    _ ≤ document.referenceTargets.length := distinct.length_le_of_subset stored
    _ ≤ document.pathItemCount := document.length_referenceTargets_le

/-! ## Following references -/

private theorem reachesIn_of_followPathItem {document : Document} {fuel : Nat}
    {visited : List String} {target : String} {item : PathItem}
    (followed : document.followPathItem visited fuel target = some item) :
    Exists fun distance : Nat => document.ReachesIn distance target item := by
  induction fuel generalizing visited target with
  | zero => cases followed
  | succ fuel inductionHypothesis =>
      rw [followPathItem] at followed
      split at followed
      · cases followed
      · split at followed
        · cases followed
        · next found =>
            cases followed
            exact ⟨0, .direct found⟩
        · next next found =>
            rcases inductionHypothesis followed with ⟨distance, chain⟩
            exact ⟨distance + 1, .further found chain⟩

private theorem ReachesIn.not_visited {document : Document} {distance : Nat}
    {visited : List String} {target : String} {item : PathItem}
    (chain : document.ReachesIn distance target item)
    (farther : forall earlier, earlier ∈ visited -> forall (steps : Nat) (other : PathItem),
      document.ReachesIn steps earlier other -> distance < steps) :
    visited.contains target = false := by
  rw [List.contains_eq_mem, decide_eq_false_iff_not]
  intro again
  exact Nat.lt_irrefl distance (farther target again distance item chain)

/-- Following a reference arrives when the fuel exceeds the distance.  The references
already visited are farther from any item than the current one, so the current one is
not among them. -/
private theorem followPathItem_of_reachesIn {document : Document} {fuel distance : Nat}
    {visited : List String} {target : String} {item : PathItem}
    (chain : document.ReachesIn distance target item) (enough : distance < fuel)
    (farther : forall earlier, earlier ∈ visited -> forall (steps : Nat) (other : PathItem),
      document.ReachesIn steps earlier other -> distance < steps) :
    document.followPathItem visited fuel target = some item := by
  induction chain generalizing fuel visited with
  | @direct target item found =>
      rcases Nat.exists_eq_add_one_of_ne_zero (Nat.ne_of_gt enough) with ⟨fuel, rfl⟩
      have fresh := (ReachesIn.direct found).not_visited farther
      simp only [followPathItem, fresh, found, Bool.false_eq_true, if_false]
  | @further target next item distance found later inductionHypothesis =>
      have positive : fuel ≠ 0 := Nat.ne_of_gt (Nat.zero_lt_of_lt enough)
      rcases Nat.exists_eq_add_one_of_ne_zero positive with ⟨fuel, rfl⟩
      have fresh := (ReachesIn.further found later).not_visited farther
      simp only [followPathItem, fresh, found, Bool.false_eq_true, if_false]
      apply inductionHypothesis (Nat.lt_of_succ_lt_succ enough)
      intro earlier member steps other chain
      rcases List.mem_cons.mp member with rfl | member
      · have same := (chain.unique (.further found later)).1
        omega
      · have more := farther earlier member steps other chain
        omega

/-- Following a reference gives an item exactly when its chain reaches that item. -/
theorem pathItem?_eq_some_iff (document : Document) (target : String) (item : PathItem) :
    document.pathItem? target = some item ↔ document.Reaches (.reference target) item := by
  rw [reaches_reference_iff, pathItem?]
  constructor
  · exact reachesIn_of_followPathItem
  · rintro ⟨distance, chain⟩
    have bound := chain.distance_le
    exact followPathItem_of_reachesIn chain (by omega) (by simp)

/-! ## Chains through other paths -/

/-- The chain of a reference comes to the entry of a path. -/
inductive LeadsTo (document : Document) : String -> String -> Prop
  | here {target : String} (amongPaths : Pointer.registryName? target ≠ some "pathItems")
      (declared : Pointer.targetName target ∈ document.paths.names) :
      LeadsTo document target (Pointer.targetName target)
  | further {target next path : String}
      (found : document.pathItemEntry? target = some (.reference next))
      (later : LeadsTo document next path) : LeadsTo document target path

/-- A reference that leads to a path reaches what the entry of that path reaches. -/
theorem LeadsTo.reaches_iff {document : Document} {target path : String}
    (leads : document.LeadsTo target path) :
    Exists fun entry : Referable PathItem => document.paths.get? path = some entry ∧
      forall item : PathItem,
        document.Reaches (.reference target) item ↔ document.Reaches entry item := by
  induction leads with
  | @here target amongPaths declared =>
      rcases (document.paths.mem_names_iff _).mp declared with ⟨entry, found⟩
      have named : document.pathItemEntry? target = some entry := by
        unfold pathItemEntry?
        rw [if_neg amongPaths]
        exact found
      refine ⟨entry, found, fun item => ⟨?_, .reference named⟩⟩
      rintro (_ | ⟨otherFound, later⟩)
      rwa [Option.some.inj (named.symm.trans otherFound)]
  | further found _ inductionHypothesis =>
      rcases inductionHypothesis with ⟨entry, declared, same⟩
      refine ⟨entry, declared, fun item => ?_⟩
      rw [← same item]
      constructor
      · rintro (_ | ⟨otherFound, later⟩)
        rwa [Option.some.inj (found.symm.trans otherFound)]
      · exact .reference found

end Document
end OpenApiTypes
