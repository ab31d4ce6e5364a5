import OpenApiTypes.Proofs.Json.Members
import OpenApiTypes.Yaml.Reading
import Mathlib.Data.Option.Basic

namespace OpenApiTypes
namespace Yaml

/-!
# Values of YAML texts

A key that is written twice in a mapping replaces its former value.  So the value of a text
has no name twice, at any depth, and what is said about values with distinct names holds for
every document that is written as a text.
-/

/-- Whatever a reading gives, from any count, has a property. -/
def Ensures {Result : Type} (reading : Counting Result) (property : Result -> Prop) : Prop :=
  forall (count later : Nat) (result : Result), reading.run count = some (result, later) ->
    property result

namespace Ensures

variable {Result Other : Type} {property : Result -> Prop} {otherProperty : Other -> Prop}

theorem pure {result : Result} (holds : property result) :
    Ensures (Pure.pure result : Counting Result) property := by
  intro count later given read
  cases read
  exact holds

theorem failure : Ensures (Alternative.failure : Counting Result) property :=
  nofun

/-- What was read first has its property when what follows is read. -/
theorem bind {reading : Counting Result} {next : Result -> Counting Other}
    (ensures : Ensures reading property)
    (later : forall result : Result, property result -> Ensures (next result) otherProperty) :
    Ensures (reading >>= next) otherProperty := by
  intro count final result read
  rw [StateT.run_bind] at read
  rcases Option.bind_eq_some_iff.mp read with ⟨⟨first, between⟩, here, rest⟩
  exact later first (ensures count between first here) between final result rest

/-- Nothing needs to be known about what was read first. -/
theorem bind_any {reading : Counting Result} {next : Result -> Counting Other}
    (later : forall result : Result, Ensures (next result) otherProperty) :
    Ensures (reading >>= next) otherProperty := by
  have anything : Ensures reading (fun _ => True) := fun _ _ _ _ => trivial
  exact anything.bind (fun result _ => later result)

theorem mapM {Item : Type} {read : Item -> Counting Result}
    (each : forall item : Item, Ensures (read item) property) (items : List Item) :
    Ensures (items.mapM read) (fun results => ∀ result ∈ results, property result) := by
  induction items with
  | nil => exact pure nofun
  | cons item rest inductionHypothesis =>
      rw [List.mapM_cons]
      refine (each item).bind (fun first firstHolds => ?_)
      refine inductionHypothesis.bind (fun others othersHold => ?_)
      exact pure (List.forall_mem_cons.mpr ⟨firstHolds, othersHold⟩)

/-- What every step keeps holds after all of them. -/
theorem foldlM {Item : Type} {step : Result -> Item -> Counting Result}
    (keeps : forall (result : Result) (item : Item), property result ->
      Ensures (step result item) property)
    (items : List Item) {start : Result} (holds : property start) :
    Ensures (items.foldlM step start) property := by
  induction items generalizing start with
  | nil => exact pure holds
  | cons item rest inductionHypothesis =>
      rw [List.foldlM_cons]
      exact (keeps start item holds).bind (fun next nextHolds => inductionHypothesis nextHolds)

end Ensures

/-! ## Scalars -/

private theorem distinct_real (value : Real) : value.json.Distinct := by
  cases value <;> simp [Real.json]

private theorem distinct_integerValue {amount : Int} {value : Json}
    (given : integerValue? amount = some value) : value.Distinct := by
  unfold integerValue? at given
  split at given
  · cases given
    exact .number _
  · cases given

private theorem distinct_plainValue {text : String} {value : Json}
    (given : plainValue? text = some value) : value.Distinct := by
  have other (real : Option Real) : ((real.map Real.json).getD (.string text)).Distinct := by
    cases real with
    | none => exact .string text
    | some found => exact distinct_real found
  unfold plainValue? at given
  split at given
  · cases given
    exact .null
  · split at given
    · cases given
      exact .boolean _
    · dsimp only at given
      split at given
      · split at given
        · exact distinct_integerValue given
        · cases given
          exact other _
      · cases given
        exact other _

private theorem distinct_taggedValue {tag text : String} {value : Json}
    (given : taggedValue? tag text = some value) : value.Distinct := by
  unfold taggedValue? at given
  split at given
  · rcases Option.map_eq_some_iff.mp given with ⟨truth, _, rfl⟩
    exact .boolean truth
  · split at given
    · rcases Option.bind_eq_some_iff.mp given with ⟨amount, _, found⟩
      exact distinct_integerValue found
    · split at given
      · rcases Option.map_eq_some_iff.mp given with ⟨real, _, rfl⟩
        exact distinct_real real
      · split at given
        · split at given
          · cases given
            exact .null
          · cases given
        · split at given
          · cases given
          · cases given
            exact .string text

private theorem distinct_scalarValue {tag : Option String} {plain : Bool} {text : String}
    {value : Json} (given : scalarValue tag plain text = some value) : value.Distinct := by
  cases tag with
  | some tag => exact distinct_taggedValue given
  | none =>
      cases plain with
      | true => exact distinct_plainValue given
      | false =>
          cases given
          exact .string text

/-! ## Collections -/

/-- The members of a mapping so far make an object with distinct names. -/
private theorem distinct_insert {members : Json.Members} (soFar : (Json.object members).Distinct)
    (name : String) {value : Json} (distinct : value.Distinct) :
    (Json.object (members.insert name value)).Distinct := by
  rw [Json.distinct_object_iff] at soFar
  refine .object (Json.Members.nodup_insert soFar.1 name value) ?_
  rw [Json.Members.insert_eq_put]
  intro member present
  rcases Registry.mem_of_mem_put present with rfl | former
  · exact distinct
  · exact soFar.2 member former

private theorem ensures_scalar (tag : Option String) (plain : Bool) (text : String) :
    Ensures (StateT.lift (scalarValue tag plain text)) Json.Distinct := by
  intro count later value read
  rcases Option.bind_eq_some_iff.mp read with ⟨found, given, same⟩
  cases same
  exact distinct_scalarValue given

/-- The value of a node has distinct names.  The induction is on the depth that is left. -/
theorem ensures_toJson (targets : Targets) (limit depth : Nat) (node : Linked) :
    Ensures (toJson targets limit depth node) Json.Distinct := by
  induction depth generalizing node with
  | zero =>
      unfold toJson
      refine .bind_any (fun found => ?_)
      cases found with
      | scalar tag plain text => exact ensures_scalar tag plain text
      | aliased number => exact .failure
      | sequence tag items => exact .failure
      | mapping tag entries => exact .failure
  | succ depth inductionHypothesis =>
      unfold toJson
      refine .bind_any (fun found => ?_)
      cases found with
      | scalar tag plain text => exact ensures_scalar tag plain text
      | aliased number => exact .failure
      | sequence tag items =>
          refine .bind_any (fun _ => ?_)
          exact (Ensures.mapM inductionHypothesis items).bind
            (fun values each => .pure (.array each))
      | mapping tag entries =>
          have step (members : Json.Members) (entry : Linked × Linked)
              (soFar : (Json.object members).Distinct) :
              Ensures (do
                let name <- keyText (<- shown targets limit entry.1)
                let value <- toJson targets limit depth entry.2
                pure (Json.Members.insert members name value))
                (fun members => (Json.object members).Distinct) :=
            .bind_any fun _ => .bind_any fun name => (inductionHypothesis entry.2).bind
              fun value distinct => .pure (distinct_insert soFar name distinct)
          have empty : (Json.object []).Distinct := by simp
          refine .bind_any (fun _ => ?_)
          exact (Ensures.foldlM step entries empty).bind (fun members distinct => .pure distinct)

/-- The value of a text has distinct names. -/
theorem distinct_of_read? {text : String} {value : Json} (read : read? text = some value) :
    value.Distinct := by
  rcases Option.bind_eq_some_iff.mp read with ⟨node, _, afterNode⟩
  rcases Option.bind_eq_some_iff.mp afterNode with ⟨⟨linked, targets, anchors⟩, _, afterLink⟩
  rcases Option.bind_eq_some_iff.mp afterLink with ⟨⟨found, later⟩, here, same⟩
  rw [← Option.some.inj same]
  exact ensures_toJson targets _ greatestDepth linked 0 later found here

end Yaml
end OpenApiTypes
