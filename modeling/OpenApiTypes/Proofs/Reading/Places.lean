import OpenApiTypes.Proofs.Registry.Lookup
import OpenApiTypes.Reading.Reader
import Mathlib.Data.List.Basic

namespace OpenApiTypes
namespace Reading

/-!
# Two values in one place

A record is read member by member, and each member changes its own part of the draft.  So
when one member is given another value, the outcome of reading the record differs by what
the two values make of that member, whatever the other members are: they are read alike,
or one of them fails in both cases.

Places cover both ways of writing a record.  A member of an object stands under its name,
between other members; an element of a sequence stands at its index.
-/

/-! ## Outcomes -/

/-- Two readings fail with the same error, or both succeed and their results are related. -/
inductive Related {Problem First Second : Type} (relation : First -> Second -> Prop) :
    Except Problem First -> Except Problem Second -> Prop
  | failed (error : Problem) : Related relation (.error error) (.error error)
  | succeeded {first : First} {second : Second} (holds : relation first second) :
      Related relation (.ok first) (.ok second)

namespace Related

variable {Problem First Second FirstResult SecondResult : Type}
  {relation : First -> Second -> Prop} {resultRelation : FirstResult -> SecondResult -> Prop}
  {one : Except Problem First} {other : Except Problem Second}

/-- Related readings are followed by related readings. -/
theorem bind (related : Related relation one other)
    {next : First -> Except Problem FirstResult} {otherNext : Second -> Except Problem SecondResult}
    (later : forall (first : First) (second : Second), relation first second ->
      Related resultRelation (next first) (otherNext second)) :
    Related resultRelation (one >>= next) (other >>= otherNext) := by
  cases related with
  | failed error => exact .failed error
  | succeeded holds => exact later _ _ holds

/-- After the same reading, what follows is all that can differ. -/
theorem bind_left (reading : Except Problem First)
    {next : First -> Except Problem FirstResult} {otherNext : First -> Except Problem SecondResult}
    (later : forall first : First, Related resultRelation (next first) (otherNext first)) :
    Related resultRelation (reading >>= next) (reading >>= otherNext) := by
  cases reading with
  | error problem => exact .failed problem
  | ok first => exact later first

theorem mapError {Failure : Type} (related : Related relation one other)
    (change : Problem -> Failure) :
    Related relation (one.mapError change) (other.mapError change) := by
  cases related with
  | failed error => exact .failed (change error)
  | succeeded holds => exact .succeeded holds

theorem map {change : First -> FirstResult} {otherChange : Second -> SecondResult}
    (related : Related relation one other) (resultRelation : FirstResult -> SecondResult -> Prop)
    (keeps : forall (first : First) (second : Second), relation first second ->
      resultRelation (change first) (otherChange second)) :
    Related resultRelation (one.map change) (other.map otherChange) := by
  cases related with
  | failed error => exact .failed error
  | succeeded holds => exact .succeeded (keeps _ _ holds)

/-- Readings that succeed have related results. -/
theorem results {first : First} {second : Second}
    (related : Related relation (.ok first : Except Problem First) (.ok second)) :
    relation first second := by
  cases related with
  | succeeded holds => exact holds

end Related

/-! ## Places -/

/-- The place of a member in a record: between other members of an object, none of which
has its name, or at its index in a sequence. -/
inductive RecordPlace (name : String) (index : Nat) where
  | member (before after : Json.Members) (absent : name ∉ (before ++ after).map Prod.fst)
  | element (before after : List Json) (position : before.length = index)

namespace RecordPlace

variable {name : String} {index : Nat}

/-- The record with a value in the place. -/
def fill : RecordPlace name index -> Json -> Json
  | .member before after _, value => .object (before ++ (name, value) :: after)
  | .element before after _, value => .array (before ++ value :: after)

/-- The place after the other members of an object have changed.  The elements of a
sequence stay. -/
def mapMembers (change : String × Json -> String × Json)
    (names : forall member : String × Json, (change member).1 = member.1) :
    RecordPlace name index -> RecordPlace name index
  | .member before after absent =>
      .member (before.map change) (after.map change) (by
        have kept : Prod.fst ∘ change = Prod.fst := funext names
        rwa [← List.map_append, List.map_map, kept])
  | .element before after position => .element before after position

end RecordPlace

/-! ## Records -/

variable {Draft : Type}

/-- Reading a field takes related drafts to related drafts. -/
def Field.Keeps (field : Field Draft) (relation : Draft -> Draft -> Prop) : Prop :=
  forall (value : Json) (first second : Draft), relation first second ->
    Related relation (field.read value first) (field.read value second)

namespace Shape

variable {shape : Shape Draft} {relation : Draft -> Draft -> Prop} {field : Field Draft}

theorem related_readMembers
    (keeps : ∀ other ∈ shape.fields, other.name ≠ field.name -> other.Keeps relation)
    {members : Json.Members} (absent : field.name ∉ members.map Prod.fst) {first second : Draft}
    (holds : relation first second) :
    Related relation (shape.readMembers members first) (shape.readMembers members second) := by
  induction members generalizing first second with
  | nil => exact .succeeded holds
  | cons member rest inductionHypothesis =>
      rcases member with ⟨name, value⟩
      rw [List.map_cons, List.mem_cons, not_or] at absent
      rw [readMembers, readMembers]
      cases found : shape.fields.find? (fun field => field.name == name) with
      | none =>
          cases shape.strict with
          | true => exact .failed _
          | false => exact inductionHypothesis absent.2 holds
      | some other =>
          have named : other.name = name := by simpa using List.find?_some found
          have different : other.name ≠ field.name := by
            rw [named]
            exact Ne.symm absent.1
          refine (keeps other (List.mem_of_find?_eq_some found) different value _ _ holds).bind ?_
          intro _ _ later
          exact inductionHypothesis absent.2 later

/-- A member of an object is reached after the same members before it, and followed by
the same members. -/
private theorem related_readMembers_of_member
    (found : shape.fields.find? (fun candidate => candidate.name == field.name) = some field)
    (keeps : ∀ other ∈ shape.fields, other.name ≠ field.name -> other.Keeps relation)
    {before after : Json.Members} (absent : field.name ∉ (before ++ after).map Prod.fst)
    {one other : Json}
    (related : forall draft : Draft, Related relation (field.read one draft) (field.read other draft))
    (draft : Draft) :
    Related relation (shape.readMembers (before ++ (field.name, one) :: after) draft)
      (shape.readMembers (before ++ (field.name, other) :: after) draft) := by
  induction before generalizing draft with
  | nil =>
      rw [List.nil_append, List.nil_append, readMembers, readMembers, found]
      exact (related draft).bind (fun _ _ holds => related_readMembers keeps absent holds)
  | cons member rest inductionHypothesis =>
      rcases member with ⟨name, value⟩
      rw [List.cons_append, List.map_cons, List.mem_cons, not_or] at absent
      rw [List.cons_append, List.cons_append, readMembers, readMembers]
      cases shape.fields.find? (fun field => field.name == name) with
      | none =>
          cases shape.strict with
          | true => exact .failed _
          | false => exact inductionHypothesis absent.2 draft
      | some field => exact .bind_left _ (inductionHypothesis absent.2)

theorem related_readElements {fields : List (Field Draft)}
    (keeps : ∀ other ∈ fields, other.Keeps relation) (items : List Json) (length index : Nat)
    {first second : Draft} (holds : relation first second) :
    Related relation (shape.readElements length index fields items first)
      (shape.readElements length index fields items second) := by
  induction fields generalizing items index first second with
  | nil =>
      cases items with
      | nil => exact .succeeded holds
      | cons value rest =>
          rw [readElements, readElements]
          cases shape.ignoresSurplus with
          | true => exact .succeeded holds
          | false => exact .failed _
  | cons field later inductionHypothesis =>
      rw [List.forall_mem_cons] at keeps
      cases items with
      | nil =>
          rw [readElements, readElements]
          cases field.defaulted with
          | true => exact inductionHypothesis keeps.2 [] _ holds
          | false => exact .failed _
      | cons value rest =>
          refine (keeps.1 value _ _ holds).bind ?_
          intro _ _ after
          exact inductionHypothesis keeps.2 rest _ after

/-- An element of a sequence is reached after the same elements before it, and followed by
the same elements. -/
private theorem related_readElements_of_element {earlier later : List (Field Draft)}
    (keeps : ∀ other ∈ later, other.Keeps relation) {before : List Json}
    (position : before.length = earlier.length) (after : List Json) {one other : Json}
    (related : forall draft : Draft, Related relation (field.read one draft) (field.read other draft))
    (length index : Nat) (draft : Draft) :
    Related relation
      (shape.readElements length index (earlier ++ field :: later) (before ++ one :: after) draft)
      (shape.readElements length index (earlier ++ field :: later) (before ++ other :: after)
        draft) := by
  induction earlier generalizing before index draft with
  | nil =>
      rw [List.eq_nil_of_length_eq_zero position]
      refine (related draft).bind ?_
      intro _ _ holds
      exact related_readElements keeps after length _ holds
  | cons first rest inductionHypothesis =>
      cases before with
      | nil => cases position
      | cons value before =>
          refine .bind_left (first.read value draft) ?_
          exact inductionHypothesis (Nat.succ.inj position) _

/-- A record with one value or another in the place of a field is read alike when the two
values are, and the other fields do not look at what that field has left behind. -/
theorem related_reader_fill (field : Field Draft) (earlier later : List (Field Draft))
    (fields : shape.fields = earlier ++ field :: later)
    (distinct : ∀ other ∈ earlier ++ later, other.name ≠ field.name)
    (keeps : ∀ other ∈ earlier ++ later, other.Keeps relation)
    (place : RecordPlace field.name earlier.length) {one other : Json}
    (related : forall draft : Draft, Related relation (field.read one draft) (field.read other draft))
    (initial : Draft) :
    Related relation (shape.reader initial (place.fill one))
      (shape.reader initial (place.fill other)) := by
  rw [List.forall_mem_append] at distinct keeps
  cases place with
  | member before after absent =>
      have found : shape.fields.find? (fun candidate => candidate.name == field.name) =
          some field := by
        have none : earlier.find? (fun candidate => candidate.name == field.name) = none := by
          rw [List.find?_eq_none]
          intro candidate member
          simpa using distinct.1 candidate member
        rw [fields, List.find?_append, none]
        simp
      have others : ∀ other ∈ shape.fields, other.name ≠ field.name -> other.Keeps relation := by
        rw [fields]
        intro other member different
        rcases List.mem_append.mp member with early | here
        · exact keeps.1 other early
        · rcases List.mem_cons.mp here with rfl | late
          · exact absurd rfl different
          · exact keeps.2 other late
      exact related_readMembers_of_member found others absent related initial
  | element before after position =>
      rw [RecordPlace.fill, RecordPlace.fill, reader, reader, fields, List.length_append,
        List.length_append, List.length_cons, List.length_cons]
      exact related_readElements_of_element keeps.2 position after related _ _ initial

end Shape

/-! ## Registries -/

variable {Entry : Type}

/-- One registry is another one with an entry stored under a second name in the place of a
first one. -/
def Renamed (first second : String) (one other : Registry Entry) : Prop :=
  Exists fun before : List (String × Entry) => Exists fun value : Entry =>
    Exists fun after : List (String × Entry) =>
      one.entries = before ++ (first, value) :: after ∧
        other.entries = before ++ (second, value) :: after

/-- A renamed entry is found under either name, and is the same entry. -/
theorem Renamed.get?_eq {first second : String} {one other : Registry Entry}
    (renamed : Renamed first second one other) :
    Exists fun value : Entry => one.get? first = some value ∧ other.get? second = some value := by
  rcases renamed with ⟨before, value, after, oneEntries, otherEntries⟩
  refine ⟨value, (one.get?_eq_some_iff first value).mpr ?_,
    (other.get?_eq_some_iff second value).mpr ?_⟩
  · simp [oneEntries]
  · simp [otherEntries]

/-- The entries that a registry is read from, each under its name. -/
def readEntry (reader : Reader Entry) (member : String × Json) : Except Error (String × Entry) := do
  let entry <- reader member.2
  pure (member.1, entry)

theorem names_of_mapM_readEntry {reader : Reader Entry} {members : Json.Members}
    {entries : List (String × Entry)}
    (read : members.mapM (readEntry reader) = .ok entries) :
    entries.map Prod.fst = members.map Prod.fst := by
  induction members generalizing entries with
  | nil =>
      cases read
      rfl
  | cons member rest inductionHypothesis =>
      rw [List.mapM_cons, readEntry] at read
      cases value : reader member.2 with
      | error problem =>
          rw [value] at read
          cases read
      | ok entry =>
          cases others : rest.mapM (readEntry reader) with
          | error problem =>
              rw [value, others] at read
              cases read
          | ok later =>
              rw [value, others] at read
              cases read
              rw [List.map_cons, List.map_cons, inductionHypothesis others]

/-- Reading a registry treats the names of its entries as names: an entry is read the same
under either of two names. -/
theorem related_registry (reader : Reader Entry) {before after : Json.Members}
    {first second : String} (value : Json)
    (firstDistinct : ((before ++ (first, value) :: after).map Prod.fst).Nodup)
    (secondDistinct : ((before ++ (second, value) :: after).map Prod.fst).Nodup) :
    Related (Renamed first second) (registry reader (.object (before ++ (first, value) :: after)))
      (registry reader (.object (before ++ (second, value) :: after))) := by
  change Related _ (((before ++ (first, value) :: after).mapM (readEntry reader)) >>= _)
    (((before ++ (second, value) :: after).mapM (readEntry reader)) >>= _)
  rw [List.mapM_append, List.mapM_append, List.mapM_cons, List.mapM_cons]
  cases beforeRead : before.mapM (readEntry reader) with
  | error problem => exact .failed problem
  | ok beforeEntries =>
      cases valueRead : reader value with
      | error problem =>
          simp only [readEntry, valueRead]
          exact .failed problem
      | ok entry =>
          cases afterRead : after.mapM (readEntry reader) with
          | error problem =>
              simp only [readEntry, valueRead]
              exact .failed problem
          | ok afterEntries =>
              simp only [readEntry, valueRead]
              have beforeNames := names_of_mapM_readEntry beforeRead
              have afterNames := names_of_mapM_readEntry afterRead
              refine .succeeded ⟨beforeEntries, entry, afterEntries, ?_, ?_⟩
              · apply Registry.entries_ofList
                simpa [beforeNames, afterNames] using firstDistinct
              · apply Registry.entries_ofList
                simpa [beforeNames, afterNames] using secondDistinct

end Reading
end OpenApiTypes
