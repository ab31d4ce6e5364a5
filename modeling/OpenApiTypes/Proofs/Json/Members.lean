import OpenApiTypes.Json.Basic
import OpenApiTypes.Proofs.Registry.Lookup
import Mathlib.Data.List.Nodup

namespace OpenApiTypes
namespace Json

/-!
# Objects whose names are distinct

An object of a JSON text has no name twice, since a later member replaces an earlier one.
The values here are trees, in which a name may be repeated, so that objects have distinct
names is said by a predicate.  Among distinct names a look-up finds the one member of that
name, wherever it stands, and the operations on members are known by what is found after
them.
-/

/-- Induction with one case for each form of a value. -/
@[induction_eliminator]
theorem induct {motive : Json -> Prop} (null : motive .null)
    (boolean : forall value : Bool, motive (.boolean value))
    (number : forall value : Number, motive (.number value))
    (string : forall value : String, motive (.string value))
    (array : forall items : List Json, (∀ item ∈ items, motive item) -> motive (.array items))
    (object : forall members : Members, (∀ member ∈ members, motive member.2) ->
      motive (.object members)) (value : Json) : motive value := by
  refine @Json.rec motive (fun items => ∀ item ∈ items, motive item)
    (fun members => ∀ member ∈ members, motive member.2) (fun member => motive member.2)
    null boolean number string array object ?_ ?_ ?_ ?_ ?_ value
  · simp
  · intro first rest firstHolds restHolds item member
    rcases List.mem_cons.mp member with rfl | later
    · exact firstHolds
    · exact restHolds item later
  · simp
  · intro first rest firstHolds restHolds item member
    rcases List.mem_cons.mp member with rfl | later
    · exact firstHolds
    · exact restHolds item later
  · intro _ _ holds
    exact holds

/-- No object has a name twice, at any depth. -/
inductive Distinct : Json -> Prop
  | null : Distinct .null
  | boolean (value : Bool) : Distinct (.boolean value)
  | number (value : Number) : Distinct (.number value)
  | string (value : String) : Distinct (.string value)
  | array {items : List Json} (inside : ∀ item ∈ items, Distinct item) : Distinct (.array items)
  | object {members : Members} (names : (members.map Prod.fst).Nodup)
      (inside : ∀ member ∈ members, Distinct member.2) : Distinct (.object members)

attribute [simp] Distinct.null Distinct.boolean Distinct.number Distinct.string

@[simp] theorem distinct_array_iff (items : List Json) :
    Distinct (.array items) ↔ ∀ item ∈ items, Distinct item := by
  constructor
  · rintro (_ | _ | _ | _ | inside)
    exact inside
  · exact Distinct.array

@[simp] theorem distinct_object_iff (members : Members) :
    Distinct (.object members) ↔
      (members.map Prod.fst).Nodup ∧ ∀ member ∈ members, Distinct member.2 := by
  constructor
  · rintro (_ | _ | _ | _ | _ | ⟨names, inside⟩)
    exact ⟨names, inside⟩
  · rintro ⟨names, inside⟩
    exact .object names inside

namespace Members

variable {members : Members}

/-- Among distinct names, a look-up finds exactly the member of a name. -/
theorem find?_eq_some_iff (distinct : (members.map Prod.fst).Nodup) (name : String)
    (value : Json) : members.find? name = some value ↔ (name, value) ∈ members :=
  Registry.lookup_eq_some_iff_mem distinct name value

theorem find?_eq_none_iff (members : Members) (name : String) :
    members.find? name = none ↔ name ∉ members.map Prod.fst := by
  rw [find?, List.lookup_eq_none_iff]
  constructor
  · intro other present
    rcases List.mem_map.mp present with ⟨member, stored, same⟩
    exact bne_iff_ne.mp (other member stored) same.symm
  · intro absent member stored
    refine bne_iff_ne.mpr ?_
    rintro rfl
    exact absent (List.mem_map_of_mem stored)

theorem has_iff (members : Members) (name : String) :
    members.has name = true ↔ name ∈ members.map Prod.fst := by
  simp [has]

/-- Members with the same distinct names and values are looked up alike, whatever their
order. -/
theorem find?_eq_of_mem_iff {others : Members} (distinct : (members.map Prod.fst).Nodup)
    (othersDistinct : (others.map Prod.fst).Nodup) {name : String}
    (same : forall value : Json, (name, value) ∈ members ↔ (name, value) ∈ others) :
    members.find? name = others.find? name := by
  apply Option.ext
  intro value
  rw [find?_eq_some_iff distinct, find?_eq_some_iff othersDistinct, same]

/-- A change of values goes along with the look-up. -/
theorem find?_map (change : String -> Json -> Json) (members : Members) (name : String) :
    Members.find? (members.map (fun member => (member.1, change member.1 member.2))) name =
      (members.find? name).map (change name) := by
  induction members with
  | nil => rfl
  | cons member rest inductionHypothesis =>
      rcases member with ⟨head, value⟩
      rw [find?] at inductionHypothesis
      by_cases same : name = head
      · subst same
        simp [find?]
      · have different : (name == head) = false := beq_eq_false_iff_ne.mpr same
        rw [find?, find?, List.map_cons, List.lookup_cons, List.lookup_cons, different]
        exact inductionHypothesis

/-- A choice of members by their names goes along with the look-up. -/
theorem find?_filter (keep : String -> Bool) (members : Members) (name : String) :
    Members.find? (members.filter (fun member => keep member.1)) name =
      if keep name then members.find? name else none := by
  induction members with
  | nil => simp [find?]
  | cons member rest inductionHypothesis =>
      rcases member with ⟨head, value⟩
      rw [find?, find?] at inductionHypothesis
      rw [find?, find?, List.lookup_cons, List.filter_cons]
      cases kept : keep head with
      | true =>
          rw [if_pos rfl, List.lookup_cons, inductionHypothesis]
          by_cases same : name = head
          · subst same
            rw [beq_self_eq_true, kept]
            rfl
          · rw [beq_eq_false_iff_ne.mpr same]
      | false =>
          rw [if_neg Bool.false_ne_true, inductionHypothesis]
          by_cases same : name = head
          · subst same
            rw [kept]
            rfl
          · rw [beq_eq_false_iff_ne.mpr same]

/-- A member in the midst of others does not count for other names. -/
theorem find?_amid_of_ne {name other : String} (apart : other ≠ name) (before after : Members)
    (value : Json) :
    Members.find? (before ++ (name, value) :: after) other =
      Members.find? (before ++ after) other := by
  have different : (other == name) = false := beq_eq_false_iff_ne.mpr apart
  rw [find?, find?, List.lookup_append, List.lookup_append, List.lookup_cons, different]

/-- A member in the midst of others of other names is found under its name, and the others
as without it. -/
theorem find?_amid {before after : Members} {name : String} {value : Json}
    (distinct : ((before ++ (name, value) :: after).map Prod.fst).Nodup) (other : String) :
    Members.find? (before ++ (name, value) :: after) other =
      if other = name then some value else Members.find? (before ++ after) other := by
  by_cases same : other = name
  · subst same
    rw [if_pos rfl, find?_eq_some_iff distinct]
    exact List.mem_append_right _ List.mem_cons_self
  · rw [if_neg same, find?_amid_of_ne same]

theorem nodup_amid_iff {before after : Members} {name : String} {value : Json} :
    ((before ++ (name, value) :: after).map Prod.fst).Nodup ↔
      name ∉ (before ++ after).map Prod.fst ∧ ((before ++ after).map Prod.fst).Nodup := by
  rw [List.map_append, List.map_cons, List.nodup_middle, List.nodup_cons, ← List.map_append]

/-! ## Insertion -/

theorem insert_eq_put (members : Members) (name : String) (value : Json) :
    members.insert name value = Registry.put name value members := by
  induction members with
  | nil => rfl
  | cons member rest inductionHypothesis =>
      rcases member with ⟨head, old⟩
      rw [insert, Registry.put, inductionHypothesis]

/-- A new name goes to the end. -/
theorem insert_of_not_mem {name : String} (fresh : name ∉ members.map Prod.fst) (value : Json) :
    members.insert name value = members ++ [(name, value)] := by
  rw [insert_eq_put, Registry.put_of_not_mem fresh]

theorem nodup_insert (distinct : (members.map Prod.fst).Nodup) (name : String) (value : Json) :
    ((members.insert name value).map Prod.fst).Nodup := by
  rw [insert_eq_put]
  exact Registry.nodup_put name value distinct

/-- A member with a new name is found under it, and the others as before. -/
theorem find?_insert {name : String} (fresh : name ∉ members.map Prod.fst) (value : Json)
    (other : String) :
    (members.insert name value).find? other =
      (members.find? other).or (if other = name then some value else none) := by
  rw [insert_of_not_mem fresh, find?, find?, List.lookup_append]
  by_cases same : other = name
  · subst same
    simp
  · have different : (other == name) = false := beq_eq_false_iff_ne.mpr same
    rw [List.lookup_cons, different, if_neg same]
    rfl

/-! ## Removal -/

theorem swapRemove_of_not_mem {name : String} (absent : name ∉ members.map Prod.fst) :
    members.swapRemove name = members := by
  induction members with
  | nil => rfl
  | cons member rest inductionHypothesis =>
      rcases member with ⟨head, value⟩
      rw [List.map_cons, List.mem_cons, not_or] at absent
      rw [swapRemove, if_neg (Ne.symm absent.1), inductionHypothesis absent.2]

/-- Removal takes one member away and keeps the others in some order. -/
theorem perm_swapRemove {name : String} {value : Json} (found : members.find? name = some value) :
    members.Perm ((name, value) :: members.swapRemove name) := by
  induction members with
  | nil => cases found
  | cons member rest inductionHypothesis =>
      rcases member with ⟨head, old⟩
      by_cases same : head = name
      · subst same
        have stored : old = value := by simpa [find?] using found
        subst stored
        rw [swapRemove, if_pos rfl]
        apply List.Perm.cons
        cases last : rest.getLast? with
        | none => rw [List.getLast?_eq_none_iff.mp last]
        | some final =>
            rcases List.getLast?_eq_some_iff.mp last with ⟨before, rfl⟩
            rw [List.dropLast_concat]
            exact List.perm_append_singleton final before
      · have different : (name == head) = false := beq_eq_false_iff_ne.mpr (Ne.symm same)
        rw [find?, List.lookup_cons, different] at found
        rw [swapRemove, if_neg same]
        exact ((inductionHypothesis found).cons (head, old)).trans (List.Perm.swap ..)

/-- What is left after a removal are the members of other names. -/
theorem mem_swapRemove_iff (distinct : (members.map Prod.fst).Nodup) (name : String)
    (member : String × Json) :
    member ∈ members.swapRemove name ↔ member ∈ members ∧ member.1 ≠ name := by
  cases found : members.find? name with
  | none =>
      have absent := (find?_eq_none_iff members name).mp found
      rw [swapRemove_of_not_mem absent, iff_self_and]
      rintro present rfl
      exact absent (List.mem_map_of_mem present)
  | some value =>
      have parts := perm_swapRemove found
      have apart : name ∉ (members.swapRemove name).map Prod.fst :=
        (List.nodup_cons.mp ((parts.map Prod.fst).nodup_iff.mp distinct)).1
      rw [parts.mem_iff, List.mem_cons]
      constructor
      · intro kept
        refine ⟨.inr kept, ?_⟩
        rintro rfl
        exact apart (List.mem_map_of_mem kept)
      · rintro ⟨rfl | kept, other⟩
        · exact absurd rfl other
        · exact kept

/-- A member that stays has its value afterwards, whatever that is. -/
theorem swapRemove_amid {name removed : String} (apart : name ≠ removed) (before after : Members) :
    Exists fun left : Members => Exists fun right : Members => forall value : Json,
      Members.swapRemove (before ++ (name, value) :: after) removed =
        left ++ (name, value) :: right := by
  induction before with
  | nil =>
      refine ⟨[], after.swapRemove removed, fun value => ?_⟩
      rw [List.nil_append, List.nil_append, swapRemove, if_neg apart]
  | cons member rest inductionHypothesis =>
      rcases member with ⟨head, old⟩
      by_cases same : head = removed
      · -- the last member takes the free place; it may be the one in question
        cases last : after.getLast? with
        | none =>
            rw [List.getLast?_eq_none_iff] at last
            subst last
            refine ⟨[], rest, fun value => ?_⟩
            rw [List.cons_append, swapRemove, if_pos same, List.getLast?_concat,
              List.dropLast_concat]
            rfl
        | some final =>
            rcases List.getLast?_eq_some_iff.mp last with ⟨first, rfl⟩
            refine ⟨final :: rest, first, fun value => ?_⟩
            have shape : rest ++ (name, value) :: (first ++ [final]) =
                (rest ++ (name, value) :: first) ++ [final] := by simp
            rw [List.cons_append, swapRemove, if_pos same, shape, List.getLast?_concat,
              List.dropLast_concat]
            rfl
      · rcases inductionHypothesis with ⟨left, right, kept⟩
        refine ⟨(head, old) :: left, right, fun value => ?_⟩
        rw [List.cons_append, swapRemove, if_neg same, kept]
        rfl

theorem nodup_swapRemove (distinct : (members.map Prod.fst).Nodup) (name : String) :
    ((members.swapRemove name).map Prod.fst).Nodup := by
  cases found : members.find? name with
  | none => rwa [swapRemove_of_not_mem ((find?_eq_none_iff members name).mp found)]
  | some value =>
      have parts := ((perm_swapRemove found).map Prod.fst).nodup_iff.mp distinct
      exact (List.nodup_cons.mp parts).2

theorem not_mem_names_swapRemove (distinct : (members.map Prod.fst).Nodup) (name : String) :
    name ∉ (members.swapRemove name).map Prod.fst := by
  intro present
  rcases List.mem_map.mp present with ⟨member, kept, same⟩
  exact ((mem_swapRemove_iff distinct name member).mp kept).2 same

/-- After a removal nothing is found under the name, and the others as before. -/
theorem find?_swapRemove (distinct : (members.map Prod.fst).Nodup) (name other : String) :
    (members.swapRemove name).find? other =
      if other = name then none else members.find? other := by
  by_cases same : other = name
  · subst same
    rw [if_pos rfl, find?_eq_none_iff]
    exact not_mem_names_swapRemove distinct other
  · rw [if_neg same]
    apply find?_eq_of_mem_iff (nodup_swapRemove distinct name) distinct
    intro value
    rw [mem_swapRemove_iff distinct]
    exact and_iff_left same

end Members
end Json
end OpenApiTypes
