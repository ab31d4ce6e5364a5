import OpenApiTypes.Proofs.Inspection.Lines
import OpenApiTypes.Proofs.Modules.WrittenTypes

namespace OpenApiTypes

/-!
# The listing, the descriptors and the parameters types agree

The listing, the endpoints module and the parameters module look at the same operations,
and each of them works out for itself whether an operation has query parameters, what its
parameters type is called, and whether it has bodies.  The listing and the endpoints
module also sort the operations for themselves.  The main statement here says that the
three never contradict each other.
-/

namespace Modules

/-! ## Parameters types -/

/-- A member is marked as optional: a question mark follows its key. -/
def QueryMember.IsMarked (context : TypeScript.TypeContext) (entry : QueryMember) : Prop :=
  Exists fun rest : String => entry.line context = entry.key ++ "?" ++ rest

/-- The members of optional parameters are marked, and no others are. -/
theorem QueryMember.isMarked_iff (context : TypeScript.TypeContext) (entry : QueryMember) :
    entry.IsMarked context ↔ entry.required = false := by
  constructor
  · rintro ⟨rest, same⟩
    cases required : entry.required with
    | false => rfl
    | true =>
        have characters := congrArg String.toList same
        simp only [QueryMember.line, required, if_true, String.toList_append,
          List.append_assoc] at characters
        have marks := List.append_cancel_left characters
        cases marks
  · intro optional
    have mark : "?" ++ ": " = "?: " := rfl
    refine ⟨": " ++ TypeScript.typeText context entry.written ++ ";", ?_⟩
    simp only [QueryMember.line, optional, Bool.false_eq_true, if_false, ← mark,
      String.append_assoc]

/-- The parameters module declares a type as that of an operation: under the name of its
parameters type, and with one member for each of its query parameters. -/
structure DeclaresType (settings : Settings) (schemasGenerated : Bool) (document : Document)
    (endpoint : Endpoint) (declared : ParamsAlias) : Prop where
  listed : declared ∈ paramsAliases document
  name : declared.name = Naming.paramsTypeName endpoint.method.name endpoint.path
  entries : declared.entries.Perm ((endpoint.operation.parametersAt .query).map queryMember)
  written : Exists fun body : String =>
    paramsBody? settings schemasGenerated document = some body ∧
      Text.Occurs ("export type " ++ declared.name ++ " = \x7b " ++
        String.intercalate " " (declared.entries.map
          (QueryMember.line (siblingContext settings schemasGenerated))) ++ " \x7d;") body

theorem hasQuery_iff (endpoint : Endpoint) :
    endpoint.hasQuery = true ↔ endpoint.operation.parametersAt .query ≠ [] := by
  simp [Endpoint.hasQuery]

/-- No type without members is declared. -/
theorem entries_ne_nil_of_mem_paramsAliases {document : Document} {declared : ParamsAlias}
    (listed : declared ∈ paramsAliases document) : declared.entries ≠ [] := by
  rw [(paramsAliases_perm document).mem_iff, List.mem_map] at listed
  rcases listed with ⟨endpoint, kept, rfl⟩
  have query := (hasQuery_iff endpoint).mp (List.mem_filter.mp kept).2
  intro empty
  have length := (entries_ownAlias_perm endpoint).length_eq
  rw [empty, List.length_map] at length
  exact query (List.eq_nil_of_length_eq_zero length.symm)

section

variable {settings : Settings} {schemasGenerated : Bool} {document : Document}
  {endpoint : Endpoint} (member : endpoint ∈ document.endpoints)

include member

theorem declaresType_ownAlias (query : endpoint.hasQuery = true) :
    DeclaresType settings schemasGenerated document endpoint (ownAlias endpoint) where
  listed := (paramsAliases_perm document).mem_iff.mpr
    (List.mem_map_of_mem (List.mem_filter.mpr ⟨member, query⟩))
  name := rfl
  entries := entries_ownAlias_perm endpoint
  written := occurs_ownAlias_paramsBody settings schemasGenerated document member query

/-- An operation has a type declared for it exactly when it has a query parameter, even if
another operation has a type of the same name. -/
theorem exists_declaresType_iff :
    (Exists fun declared : ParamsAlias =>
      DeclaresType settings schemasGenerated document endpoint declared) ↔
        endpoint.hasQuery = true := by
  constructor
  · rintro ⟨declared, declares⟩
    rw [hasQuery_iff]
    intro none
    have empty := declares.entries
    rw [none] at empty
    exact entries_ne_nil_of_mem_paramsAliases declares.listed empty.eq_nil
  · intro query
    exact ⟨ownAlias endpoint, declaresType_ownAlias member query⟩

/-- An operation has a required query parameter exactly when a member of the type that is
declared for it is not marked. -/
theorem any_required_iff :
    (endpoint.operation.parametersAt .query).any Parameter.required = true ↔
      Exists fun declared : ParamsAlias =>
        DeclaresType settings schemasGenerated document endpoint declared ∧
          ∃ entry ∈ declared.entries,
            ¬ entry.IsMarked (siblingContext settings schemasGenerated) := by
  simp only [QueryMember.isMarked_iff, Bool.not_eq_false, List.any_eq_true]
  constructor
  · rintro ⟨parameter, declared, required⟩
    have query := (hasQuery_iff endpoint).mpr (List.ne_nil_of_mem declared)
    refine ⟨ownAlias endpoint, declaresType_ownAlias member query, queryMember parameter, ?_,
      required⟩
    exact (entries_ownAlias_perm endpoint).mem_iff.mpr (List.mem_map_of_mem declared)
  · rintro ⟨declared, declares, entry, inside, required⟩
    rcases List.mem_map.mp (declares.entries.mem_iff.mp inside) with ⟨parameter, listed, rfl⟩
    exact ⟨parameter, listed, required⟩

end

/-! ## Descriptors -/

theorem paramsExpected_descriptor (settings : Settings) (siblings : Siblings)
    (endpoint : Endpoint) :
    (descriptor settings siblings endpoint).paramsExpected = endpoint.hasQuery := rfl

/-- The empty object type is no reference. -/
theorem reference_ne_emptyObject (qualifier name : String) :
    qualifier ++ "." ++ name ≠ "\x7b\x7d" := by
  intro same
  have dot : '.' ∈ (qualifier ++ "." ++ name).toList := by simp
  rw [same] at dot
  revert dot
  decide

theorem paramsType_descriptor_of_not_hasQuery (settings : Settings) (siblings : Siblings)
    {endpoint : Endpoint} (none : endpoint.hasQuery = false) :
    (descriptor settings siblings endpoint).paramsType = "\x7b\x7d" := by
  have empty : (endpoint.operation.parametersAt .query).isEmpty = true := by
    simpa [Endpoint.hasQuery] using none
  simp [descriptor, empty]

/-- A body that has no type of its own is of the type `never` or `unknown`. -/
theorem bodyType_of_not_isTyped (context : TypeScript.TypeContext) {content : Option Content}
    (untyped : content.any isTyped = false) :
    bodyType context content = "never" ∨ bodyType context content = "unknown" := by
  cases content with
  | none => exact Or.inl rfl
  | some content =>
      have parts : content.jsonSchema? = none ∧ content.isBinary = false := by
        simpa [isTyped] using untyped
      right
      rw [bodyType, parts.1, parts.2]
      rfl

end Modules

namespace Inspection

open Modules

/-- A summary and a descriptor that say the same about an operation as the parameters
module does. -/
structure Agree (settings : Settings) (schemasGenerated : Bool) (document : Document)
    (endpoint : Endpoint) (summary : Summary) (described : Descriptor) : Prop where
  method : summary.method = endpoint.method ∧ described.method = endpoint.method.name
  path : summary.path = endpoint.path ∧ described.path = endpoint.path
  /-- No other name is shown than that of the parameters type of the operation. -/
  name : ∀ name ∈ summary.paramsType,
    name = Naming.paramsTypeName endpoint.method.name endpoint.path
  /-- A name is shown exactly when the descriptor refers to it. -/
  reference : forall name : String,
    summary.paramsType = some name ↔
      described.paramsType = settings.aliases.params ++ "." ++ name
  expected : summary.paramsType =
      some (Naming.paramsTypeName endpoint.method.name endpoint.path) ↔
    described.paramsExpected = true
  declared : described.paramsExpected = true ↔
    Exists fun declared : ParamsAlias =>
      DeclaresType settings schemasGenerated document endpoint declared
  /-- No name is shown exactly when the descriptor has the empty object type. -/
  empty : summary.paramsType = none ↔ described.paramsType = "\x7b\x7d"
  body : summary.body = true ↔ described.bodyExpected = true
  response : summary.response = true ↔ described.bodyReturned = true
  required : described.paramsRequired = true ↔
    Exists fun declared : ParamsAlias =>
      DeclaresType settings schemasGenerated document endpoint declared ∧
        ∃ entry ∈ declared.entries, ¬ entry.IsMarked (siblingContext settings schemasGenerated)
  requestType : described.bodyExpected = false -> described.requestType = "never"
  responseType : described.bodyReturned = false ->
    described.responseType = "never" ∨ described.responseType = "unknown"

theorem paramsType_summary (endpoint : Endpoint) :
    (summary endpoint).paramsType =
      if endpoint.hasQuery then some (Naming.paramsTypeName endpoint.method.name endpoint.path)
      else none := by
  unfold summary Endpoint.hasQuery
  cases (endpoint.operation.parametersAt .query).isEmpty <;> rfl

theorem paramsType_summary_eq_some_iff (settings : Settings) (siblings : Siblings)
    (endpoint : Endpoint) (name : String) :
    (summary endpoint).paramsType = some name ↔
      (descriptor settings siblings endpoint).paramsType =
        settings.aliases.params ++ "." ++ name := by
  rw [paramsType_summary]
  cases query : endpoint.hasQuery with
  | true =>
      rw [paramsType_descriptor_of_hasQuery settings siblings query, if_pos rfl,
        Option.some_inj, String.append_right_inj]
      rfl
  | false =>
      rw [paramsType_descriptor_of_not_hasQuery settings siblings query]
      constructor
      · intro impossible
        cases impossible
      · intro same
        exact absurd same.symm (reference_ne_emptyObject _ _)

theorem paramsType_summary_eq_none_iff (settings : Settings) (siblings : Siblings)
    (endpoint : Endpoint) :
    (summary endpoint).paramsType = none ↔
      (descriptor settings siblings endpoint).paramsType = "\x7b\x7d" := by
  rw [paramsType_summary]
  cases query : endpoint.hasQuery with
  | true =>
      rw [paramsType_descriptor_of_hasQuery settings siblings query]
      constructor
      · intro impossible
        cases impossible
      · intro same
        exact absurd same (reference_ne_emptyObject _ _)
  | false =>
      rw [paramsType_descriptor_of_not_hasQuery settings siblings query]
      exact ⟨fun _ => rfl, fun _ => rfl⟩

/-- The summary and the descriptor of an operation agree. -/
theorem agree_summary_descriptor (settings : Settings) (siblings : Siblings)
    (schemasGenerated : Bool) {document : Document} {endpoint : Endpoint}
    (member : endpoint ∈ document.endpoints) :
    Agree settings schemasGenerated document endpoint (summary endpoint)
      (descriptor settings siblings endpoint) where
  method := ⟨rfl, rfl⟩
  path := ⟨rfl, rfl⟩
  name := by
    intro name shown
    rw [paramsType_summary, Option.mem_def] at shown
    split at shown
    next => exact (Option.some.inj shown).symm
    next => cases shown
  reference := paramsType_summary_eq_some_iff settings siblings endpoint
  expected := by
    rw [paramsType_summary, paramsExpected_descriptor]
    cases endpoint.hasQuery <;> simp
  declared := by
    rw [paramsExpected_descriptor, exists_declaresType_iff member]
  empty := paramsType_summary_eq_none_iff settings siblings endpoint
  body := Iff.rfl
  response := Iff.rfl
  required := any_required_iff member
  requestType := by
    intro undeclared
    have none : endpoint.operation.requestBody = none := Option.isSome_eq_false_iff.mp undeclared
      |> Option.isNone_iff_eq_none.mp
    simp only [descriptor, none, Option.map_none]
    rfl
  responseType := by
    intro untyped
    refine bodyType_of_not_isTyped _ ?_
    rw [Option.any_map]
    exact untyped

/-! ## Whole documents -/

/-- The listing and the descriptors of a document have the same rows, one for each
operation of the self-contained document.  The rows are in strictly ascending order of the
paths and, within a path, of the methods.  The line of a row shows a summary, and nothing
else, that agrees with the descriptor of the row and with the parameters module. -/
theorem listing_agrees (settings : Settings) (siblings : Siblings) (schemasGenerated : Bool)
    (document : Document) :
    Exists fun rows : List Endpoint =>
      (forall endpoint : Endpoint,
        endpoint ∈ rows ↔ endpoint ∈ document.selfContained.endpoints) ∧
      rows.Nodup ∧ rows.Pairwise Endpoint.Before ∧
      lines document = rows.map line ∧
      descriptors settings siblings document.selfContained =
        rows.map (descriptor settings siblings) ∧
      ∀ endpoint ∈ rows, Exists fun shown : Summary =>
        (forall other : Summary, Shows (line endpoint) other ↔ other = shown) ∧
          Agree settings schemasGenerated document.selfContained endpoint shown
            (descriptor settings siblings endpoint) := by
  have order := document.selfContained.pairwise_sortedEndpoints
  refine ⟨document.selfContained.sortedEndpoints, document.selfContained.mem_sortedEndpoints_iff,
    ?_, order, rfl, rfl, ?_⟩
  · exact (Text.sortOn_perm _ _).nodup_iff.mpr document.selfContained.nodup_endpoints
  · intro endpoint row
    have member := (document.selfContained.mem_sortedEndpoints_iff endpoint).mp row
    refine ⟨summary endpoint, ?_, agree_summary_descriptor settings siblings _ member⟩
    intro other
    constructor
    · intro shows
      exact shows.unique (shows_line endpoint)
    · rintro rfl
      exact shows_line endpoint

end Inspection
end OpenApiTypes
