import OpenApiTypes.Proofs.Reading.Places

namespace OpenApiTypes

/-- Whether a value holds further values. -/
def Json.isComposite : Json -> Bool
  | .array _ => true
  | .object _ => true
  | _ => false

namespace Reading

/-!
# Readings with the same result

Two values may be read alike although the errors differ when neither can be read: which
error is met first depends on the order of members.  Agreement is about results only.  It
is kept by every combinator of readers, so that values with a part in common places that
is read alike are read alike.
-/

/-- What is read in two steps was read in each of them. -/
theorem exists_of_bind_eq_ok {Problem First Second : Type}
    {reading : Except Problem First} {next : First -> Except Problem Second} {result : Second}
    (done : reading >>= next = .ok result) :
    Exists fun found : First => reading = .ok found ∧ next found = .ok result := by
  cases reading with
  | error problem => cases done
  | ok found => exact ⟨found, rfl, done⟩

theorem map_eq_ok_iff {Problem First Second : Type} {reading : Except Problem First}
    {change : First -> Second} {result : Second} :
    reading.map change = .ok result ↔
      Exists fun found : First => reading = .ok found ∧ change found = result := by
  cases reading with
  | error problem => simp [Except.map]
  | ok found => simp [Except.map]

/-- Both readings fail, or both give the same result. -/
def Agree {Problem Result : Type} (one other : Except Problem Result) : Prop :=
  one.toOption = other.toOption

namespace Agree

variable {Problem Result Other : Type} {one other : Except Problem Result}

@[refl] theorem refl (reading : Except Problem Result) : Agree reading reading := rfl

theorem symm (agree : Agree one other) : Agree other one := Eq.symm agree

theorem trans {third : Except Problem Result} (agree : Agree one other)
    (next : Agree other third) : Agree one third := Eq.trans agree next

theorem of_ok_iff (same : forall result : Result, one = .ok result ↔ other = .ok result) :
    Agree one other := by
  cases one with
  | ok result => rw [(same result).mp rfl]
  | error problem =>
      cases other with
      | ok result => cases (same result).mpr rfl
      | error otherProblem => rfl

theorem bind (agree : Agree one other) {next otherNext : Result -> Except Problem Other}
    (later : forall result : Result, Agree (next result) (otherNext result)) :
    Agree (one >>= next) (other >>= otherNext) := by
  cases one with
  | ok result =>
      cases other with
      | ok otherResult =>
          cases agree
          exact later result
      | error problem => cases agree
  | error problem =>
      cases other with
      | ok otherResult => cases agree
      | error otherProblem => rfl

theorem map (agree : Agree one other) (change : Result -> Other) :
    Agree (one.map change) (other.map change) :=
  agree.bind (fun result => refl (.ok (change result)))

theorem mapError {Failure : Type} (agree : Agree one other) (change : Problem -> Failure) :
    Agree (one.mapError change) (other.mapError change) := by
  cases one with
  | ok result =>
      cases other with
      | ok otherResult => exact agree
      | error problem => cases agree
  | error problem =>
      cases other with
      | ok otherResult => cases agree
      | error otherProblem => rfl

theorem eq_ok {result : Result} (agree : Agree one other) (read : one = .ok result) :
    other = .ok result := by
  subst read
  cases other with
  | ok otherResult =>
      cases agree
      rfl
  | error problem => cases agree

end Agree

/-! ## Readers of one value -/

variable {Result : Type} {one other : Json}

theorem optional_of_isComposite (reader : Reader Result) {value : Json}
    (composite : value.isComposite = true) : optional reader value = (reader value).map some := by
  cases value with
  | array items => rfl
  | object members => rfl
  | _ => cases composite

/-- The first alternative that fits is the same one. -/
theorem agree_either {first second : Reader Result} (union : String)
    (firstAgrees : Agree (first one) (first other))
    (secondAgrees : Agree (second one) (second other)) :
    Agree (either union first second one) (either union first second other) := by
  rw [either, either]
  cases read : first one with
  | ok result =>
      rw [firstAgrees.eq_ok read]
  | error problem =>
      cases otherRead : first other with
      | ok result =>
          rw [read, otherRead] at firstAgrees
          cases firstAgrees
      | error otherProblem =>
          cases secondRead : second one with
          | ok result =>
              rw [secondAgrees.eq_ok secondRead]
          | error secondProblem =>
              cases secondOtherRead : second other with
              | ok result =>
                  rw [secondRead, secondOtherRead] at secondAgrees
                  cases secondAgrees
              | error secondOtherProblem => rfl

/-! ## Sequences and registries -/

variable {Item Entry : Type}

/-- Items around one that is read alike. -/
theorem agree_mapM {reader : Item -> Except Error Entry} {item otherItem : Item}
    (agree : Agree (reader item) (reader otherItem)) (before after : List Item) :
    Agree ((before ++ item :: after).mapM reader) ((before ++ otherItem :: after).mapM reader) := by
  rw [List.mapM_append, List.mapM_append, List.mapM_cons, List.mapM_cons]
  refine (Agree.refl (before.mapM reader)).bind (fun first => ?_)
  exact (agree.bind fun entry => .refl _).bind (fun last => .refl _)

theorem agree_list {reader : Reader Result} (agree : Agree (reader one) (reader other))
    (before after : List Json) :
    Agree (list reader (.array (before ++ one :: after)))
      (list reader (.array (before ++ other :: after))) :=
  agree_mapM agree before after

theorem agree_registry {reader : Reader Entry} (agree : Agree (reader one) (reader other))
    (name : String) (before after : Json.Members) :
    Agree (registry reader (.object (before ++ (name, one) :: after)))
      (registry reader (.object (before ++ (name, other) :: after))) := by
  have entry : Agree (readEntry reader (name, one)) (readEntry reader (name, other)) :=
    agree.bind (fun read => .refl _)
  exact (agree_mapM entry before after).bind (fun entries => .refl _)

/-! ## Records -/

namespace Shape

variable {Draft : Type} {shape : Shape Draft}

/-- Members around one that its field reads alike. -/
theorem agree_readMembers {name : String}
    (each : forall field : Field Draft,
      shape.fields.find? (fun candidate => candidate.name == name) = some field ->
        forall draft : Draft, Agree (field.read one draft) (field.read other draft))
    (before after : Json.Members) (draft : Draft) :
    Agree (shape.readMembers (before ++ (name, one) :: after) draft)
      (shape.readMembers (before ++ (name, other) :: after) draft) := by
  induction before generalizing draft with
  | nil =>
      rw [List.nil_append, List.nil_append, readMembers, readMembers]
      cases found : shape.fields.find? (fun candidate => candidate.name == name) with
      | none => rfl
      | some field => exact (each field found draft).bind (fun read => .refl _)
  | cons member rest inductionHypothesis =>
      rcases member with ⟨otherName, value⟩
      rw [List.cons_append, List.cons_append, readMembers, readMembers]
      cases shape.fields.find? (fun candidate => candidate.name == otherName) with
      | none =>
          cases shape.strict with
          | true => rfl
          | false => exact inductionHypothesis draft
      | some field => exact (Agree.refl (field.read value draft)).bind inductionHypothesis

/-- Elements around one that the field at its index reads alike. -/
theorem agree_readElements {fields : List (Field Draft)} {before : List Json}
    (each : forall field : Field Draft, fields[before.length]? = some field ->
      forall draft : Draft, Agree (field.read one draft) (field.read other draft))
    (after : List Json) (length index : Nat) (draft : Draft) :
    Agree (shape.readElements length index fields (before ++ one :: after) draft)
      (shape.readElements length index fields (before ++ other :: after) draft) := by
  induction before generalizing fields index draft with
  | nil =>
      cases fields with
      | nil => rfl
      | cons field later => exact (each field rfl draft).bind (fun read => .refl _)
  | cons value rest inductionHypothesis =>
      cases fields with
      | nil => rfl
      | cons field later =>
          exact (Agree.refl (field.read value draft)).bind (inductionHypothesis each _)

end Shape
end Reading
end OpenApiTypes
