import OpenApiTypes.Proofs.Json.Members
import OpenApiTypes.Schema.Normal

namespace OpenApiTypes
namespace Schema

/-!
# What the older spellings stand for

A schema object may say `x-nullable` and `const`.  Respelling takes these two members away
and adds what they imply, each under a name that the object does not have.  Removal moves
other members about, so the result is described by what is found in it and not by its
order.
-/

variable {members : Json.Members}

/-- The members in the spelling that the keywords know. -/
def respell (members : Json.Members) : Json.Members :=
  respellConstant (respellNullable members)

/-- The flag that `x-nullable` stands for.  Only the value true counts. -/
def impliedFlag (members : Json.Members) : Option Json :=
  match members.find? "x-nullable" with
  | some (.boolean true) => some (.boolean true)
  | _ => none

/-- The type that `const` stands for. -/
def impliedType (members : Json.Members) : Option Json :=
  ((members.find? "const").bind constantType?).map .string

/-- The enumeration that `const` stands for. -/
def impliedValues (members : Json.Members) : Option Json :=
  (members.find? "const").map (fun value => .array [value])

/-- What the older spellings imply under a name. -/
def implied (members : Json.Members) (name : String) : Option Json :=
  if name = "nullable" then impliedFlag members
  else if name = "type" then impliedType members
  else if name = "enum" then impliedValues members
  else none

/-- What is implied depends on the members with the older spellings alone, a flag on the one
and types and values on the other. -/
theorem implied_congr {others : Json.Members} {name : String}
    (flag : name = "nullable" -> others.find? "x-nullable" = members.find? "x-nullable")
    (constant : name = "type" ∨ name = "enum" -> others.find? "const" = members.find? "const") :
    implied others name = implied members name := by
  unfold implied
  split
  · rw [impliedFlag, flag ‹_›, impliedFlag]
  · split
    · rw [impliedType, constant (.inl ‹_›), impliedType]
    · split
      · rw [impliedValues, constant (.inr ‹_›), impliedValues]
      · rfl

/-! ## Adding a member unless there is one -/

/-- The members, and one of the name when there is none and a value is given. -/
private def supply (members : Json.Members) (name : String) (value : Option Json) :
    Json.Members :=
  match value with
  | none => members
  | some value => if Json.Members.has members name then members else members.insert name value

private theorem nodup_supply (distinct : (members.map Prod.fst).Nodup) (name : String)
    (value : Option Json) : ((supply members name value).map Prod.fst).Nodup := by
  unfold supply
  split
  · exact distinct
  · split
    · exact distinct
    · exact Json.Members.nodup_insert distinct name _

private theorem find?_supply (members : Json.Members) (name : String) (value : Option Json)
    (other : String) :
    (supply members name value).find? other =
      (members.find? other).or (if other = name then value else none) := by
  unfold supply
  split
  · simp
  · rename_i value
    by_cases present : Json.Members.has members name
    · rw [if_pos present]
      by_cases same : other = name
      · subst same
        cases found : members.find? other with
        | none =>
            rw [Json.Members.has_iff] at present
            exact absurd present ((Json.Members.find?_eq_none_iff members other).mp found)
        | some stored => rfl
      · rw [if_neg same, Option.or_none]
    · rw [if_neg present, Json.Members.find?_insert]
      rwa [Json.Members.has_iff] at present

/-! ## The two respellings -/

private theorem respellNullable_eq (members : Json.Members) :
    respellNullable members =
      supply (members.swapRemove "x-nullable") "nullable" (impliedFlag members) := by
  unfold respellNullable impliedFlag
  cases found : members.find? "x-nullable" with
  | none =>
      rw [Json.Members.find?_eq_none_iff] at found
      rw [Json.Members.swapRemove_of_not_mem found]
      rfl
  | some flag =>
      cases flag with
      | boolean value => cases value <;> rfl
      | null => rfl
      | number => rfl
      | string => rfl
      | array => rfl
      | object => rfl

private theorem respellConstant_eq (members : Json.Members) :
    respellConstant members =
      supply (supply (members.swapRemove "const") "type" (impliedType members)) "enum"
        (impliedValues members) := by
  unfold respellConstant impliedType impliedValues
  cases found : members.find? "const" with
  | none =>
      rw [Json.Members.find?_eq_none_iff] at found
      rw [Json.Members.swapRemove_of_not_mem found]
      rfl
  | some value =>
      simp only [Option.bind_some, Option.map_some]
      cases constantType? value with
      | none =>
          simp only [ite_self]
          rfl
      | some type => rfl

private theorem nodup_respellNullable (distinct : (members.map Prod.fst).Nodup) :
    ((respellNullable members).map Prod.fst).Nodup := by
  rw [respellNullable_eq]
  exact nodup_supply (Json.Members.nodup_swapRemove distinct _) _ _

private theorem find?_respellNullable (distinct : (members.map Prod.fst).Nodup) (name : String) :
    (respellNullable members).find? name =
      if name = "x-nullable" then none
      else (members.find? name).or (if name = "nullable" then impliedFlag members else none) := by
  rw [respellNullable_eq, find?_supply, Json.Members.find?_swapRemove distinct]
  by_cases old : name = "x-nullable"
  · subst old
    rfl
  · rw [if_neg old, if_neg old]

/-- Respelled members have distinct names. -/
theorem nodup_respell (distinct : (members.map Prod.fst).Nodup) :
    ((respell members).map Prod.fst).Nodup := by
  rw [respell, respellConstant_eq]
  have rest := Json.Members.nodup_swapRemove (nodup_respellNullable distinct) "const"
  exact nodup_supply (nodup_supply rest _ _) _ _

/-- The older spellings are gone, the other members keep their values, and what is implied
is found where there was no member. -/
theorem find?_respell (distinct : (members.map Prod.fst).Nodup) (name : String) :
    (respell members).find? name =
      if name = "x-nullable" ∨ name = "const" then none
      else (members.find? name).or (implied members name) := by
  have flagged := find?_respellNullable distinct
  have constant : (respellNullable members).find? "const" = members.find? "const" := by
    rw [flagged, if_neg (by decide), if_neg (by decide), Option.or_none]
  have type : impliedType (respellNullable members) = impliedType members := by
    rw [impliedType, constant, impliedType]
  have values : impliedValues (respellNullable members) = impliedValues members := by
    rw [impliedValues, constant, impliedValues]
  rw [respell, respellConstant_eq, find?_supply, find?_supply,
    Json.Members.find?_swapRemove (nodup_respellNullable distinct), flagged, type, values]
  by_cases old : name = "x-nullable"
  · subst old
    rfl
  · by_cases oldConstant : name = "const"
    · subst oldConstant
      rfl
    · rw [if_neg oldConstant, if_neg old, if_neg (not_or_intro old oldConstant), implied,
        Option.or_assoc, Option.or_assoc]
      by_cases nullable : name = "nullable"
      · subst nullable
        simp
      · by_cases typed : name = "type"
        · subst typed
          simp
        · simp [nullable, typed]

/-- Members without the older spellings stay as they are. -/
theorem respell_eq_self (flag : "x-nullable" ∉ members.map Prod.fst)
    (constant : "const" ∉ members.map Prod.fst) : respell members = members := by
  rw [← Json.Members.find?_eq_none_iff] at flag constant
  have kept : respellNullable members = members := by rw [respellNullable, flag]
  rw [respell, kept, respellConstant, constant]

/-! ## Members that stay -/

private theorem supply_amid (before after : Json.Members) (name other : String)
    (added : Option Json) :
    Exists fun right : Json.Members => forall value : Json,
      supply (before ++ (name, value) :: after) other added = before ++ (name, value) :: right := by
  cases added with
  | none => exact ⟨after, fun value => rfl⟩
  | some new =>
      have names (value : Json) : (before ++ (name, value) :: after).map Prod.fst =
          before.map Prod.fst ++ name :: after.map Prod.fst := by simp
      by_cases present : other ∈ before.map Prod.fst ++ name :: after.map Prod.fst
      · refine ⟨after, fun value => if_pos ?_⟩
        rw [Json.Members.has_iff, names]
        exact present
      · refine ⟨after ++ [(other, new)], fun value => ?_⟩
        have absent : other ∉ (before ++ (name, value) :: after).map Prod.fst := by
          rw [names]
          exact present
        rw [← Json.Members.has_iff] at absent
        refine (if_neg absent).trans ?_
        rw [Json.Members.has_iff] at absent
        rw [Json.Members.insert_of_not_mem absent, List.append_assoc, List.cons_append]

/-- Apart from the older spellings themselves, respelling keeps every member with its value,
and what it does otherwise does not depend on that value. -/
theorem respell_amid {name : String} (notFlag : name ≠ "x-nullable") (notConstant : name ≠ "const")
    (before after : Json.Members) :
    Exists fun left : Json.Members => Exists fun right : Json.Members => forall value : Json,
      respell (before ++ (name, value) :: after) = left ++ (name, value) :: right := by
  have flag (value : Json) : impliedFlag (before ++ (name, value) :: after) =
      impliedFlag (before ++ after) := by
    rw [impliedFlag, Json.Members.find?_amid_of_ne notFlag.symm, impliedFlag]
  rcases Json.Members.swapRemove_amid notFlag before after with ⟨left, right, unflagged⟩
  rcases supply_amid left right name "nullable" (impliedFlag (before ++ after)) with
    ⟨flaggedRight, flagged⟩
  have type (value : Json) : impliedType (left ++ (name, value) :: flaggedRight) =
      impliedType (left ++ flaggedRight) := by
    rw [impliedType, Json.Members.find?_amid_of_ne notConstant.symm, impliedType]
  have values (value : Json) : impliedValues (left ++ (name, value) :: flaggedRight) =
      impliedValues (left ++ flaggedRight) := by
    rw [impliedValues, Json.Members.find?_amid_of_ne notConstant.symm, impliedValues]
  rcases Json.Members.swapRemove_amid notConstant left flaggedRight with
    ⟨lastLeft, lastRight, released⟩
  rcases supply_amid lastLeft lastRight name "type" (impliedType (left ++ flaggedRight)) with
    ⟨typedRight, typed⟩
  rcases supply_amid lastLeft typedRight name "enum" (impliedValues (left ++ flaggedRight)) with
    ⟨finalRight, final⟩
  refine ⟨lastLeft, finalRight, fun value => ?_⟩
  rw [respell, respellNullable_eq, flag, unflagged, flagged, respellConstant_eq, type, values,
    released, typed, final]

end Schema
end OpenApiTypes
