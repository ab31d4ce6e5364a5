import OpenApiTypes.Registry

namespace OpenApiTypes
namespace Registry

/-!
# Look-up by name

No name stands twice in a registry, so what a look-up finds under a name is the one
entry of that name, wherever it stands.  The theorems here turn look-ups into
membership among the entries and back, and follow both through `filterMap`.
-/

variable {Entry Other : Type}

/-- Among entries with distinct names, a look-up finds exactly the entry of a name. -/
theorem lookup_eq_some_iff_mem {entries : List (String × Entry)}
    (distinct : (entries.map Prod.fst).Nodup) (name : String) (value : Entry) :
    entries.lookup name = some value ↔ (name, value) ∈ entries := by
  induction entries with
  | nil => simp
  | cons head rest inductionHypothesis =>
      rcases head with ⟨headName, headValue⟩
      have parts := List.nodup_cons.mp distinct
      have later := inductionHypothesis parts.2
      by_cases same : name = headName
      · subst same
        have absent : (name, value) ∉ rest :=
          fun member => parts.1 (List.mem_map.mpr ⟨(name, value), member, rfl⟩)
        simp [absent, eq_comm]
      · have notEqual : (name == headName) = false := beq_eq_false_iff_ne.mpr same
        rw [List.lookup_cons, notEqual]
        simp [later, same]

/-- A look-up finds a value exactly when the entry of that name holds it. -/
theorem get?_eq_some_iff (registry : Registry Entry) (name : String) (value : Entry) :
    registry.get? name = some value ↔ (name, value) ∈ registry.entries :=
  lookup_eq_some_iff_mem registry.distinct name value

/-- The names are those under which something is found. -/
theorem mem_names_iff (registry : Registry Entry) (name : String) :
    name ∈ registry.names ↔ Exists fun value : Entry => registry.get? name = some value := by
  simp only [names, List.mem_map, Prod.exists, exists_and_right, exists_eq_right,
    get?_eq_some_iff]

/-- Two entries of one name are one entry. -/
theorem value_unique (registry : Registry Entry) {name : String} {first second : Entry}
    (firstMember : (name, first) ∈ registry.entries)
    (secondMember : (name, second) ∈ registry.entries) : first = second := by
  have firstFound := (registry.get?_eq_some_iff name first).mpr firstMember
  have secondFound := (registry.get?_eq_some_iff name second).mpr secondMember
  exact Option.some.inj (firstFound.symm.trans secondFound)

/-! ## Entries that a filter keeps -/

/-- The kept entries are the images of entries. -/
theorem mem_entries_filterMap_iff (keep : String × Entry -> Option Other)
    (registry : Registry Entry) (name : String) (value : Other) :
    (name, value) ∈ (registry.filterMap keep).entries ↔
      Exists fun old : Entry =>
        (name, old) ∈ registry.entries ∧ keep (name, old) = some value := by
  simp only [filterMap, List.mem_filterMap, Option.map_eq_some_iff, Prod.mk.injEq, Prod.exists]
  constructor
  · rintro ⟨oldName, old, member, made, kept, rfl, rfl⟩
    exact ⟨old, member, kept⟩
  · rintro ⟨old, member, kept⟩
    exact ⟨name, old, member, value, kept, rfl, rfl⟩

/-- Looking up after filtering is filtering what is found. -/
theorem get?_filterMap (keep : String × Entry -> Option Other) (registry : Registry Entry)
    (name : String) :
    (registry.filterMap keep).get? name =
      (registry.get? name).bind (fun old => keep (name, old)) := by
  apply Option.ext
  intro value
  rw [get?_eq_some_iff, mem_entries_filterMap_iff, Option.bind_eq_some_iff]
  simp only [get?_eq_some_iff]

/-- The kept names keep their order. -/
theorem names_filterMap_sublist (keep : String × Entry -> Option Other)
    (registry : Registry Entry) : (registry.filterMap keep).names.Sublist registry.names :=
  filterMap_names_sublist keep registry.entries

/-! ## Entries put in one by one -/

/-- After an entry is put, there are no others than before. -/
theorem mem_of_mem_put {name : String} {value : Entry} {entries : List (String × Entry)}
    {entry : String × Entry} (present : entry ∈ put name value entries) :
    entry = (name, value) ∨ entry ∈ entries := by
  induction entries with
  | nil => exact .inl (List.mem_singleton.mp present)
  | cons first rest inductionHypothesis =>
      rcases first with ⟨head, old⟩
      rw [put] at present
      split at present
      · rcases List.mem_cons.mp present with same | later
        · exact .inl same
        · exact .inr (List.mem_cons_of_mem _ later)
      · rcases List.mem_cons.mp present with same | later
        · rw [same]
          exact .inr List.mem_cons_self
        · exact (inductionHypothesis later).imp_right (List.mem_cons_of_mem _)

theorem put_of_not_mem {name : String} {entries : List (String × Entry)}
    (fresh : name ∉ entries.map Prod.fst) (value : Entry) :
    put name value entries = entries ++ [(name, value)] := by
  induction entries with
  | nil => rfl
  | cons head rest inductionHypothesis =>
      rw [List.map_cons, List.mem_cons, not_or] at fresh
      rw [put, if_neg (Ne.symm fresh.1), inductionHypothesis fresh.2, List.cons_append]

/-- Entries of distinct names that are put in one by one keep their order. -/
theorem entries_ofList {entries : List (String × Entry)}
    (distinct : (entries.map Prod.fst).Nodup) : (ofList entries).entries = entries := by
  have onto (start : Registry Entry) (later : List (String × Entry))
      (distinct : ((start.entries ++ later).map Prod.fst).Nodup) :
      (later.foldl (fun registry entry => registry.insert entry.1 entry.2) start).entries =
        start.entries ++ later := by
    induction later generalizing start with
    | nil => exact (List.append_nil _).symm
    | cons entry rest inductionHypothesis =>
        have fresh : entry.1 ∉ start.entries.map Prod.fst := by
          rw [List.map_append, List.nodup_append] at distinct
          exact fun member => distinct.2.2 _ member _ (List.mem_cons_self ..) rfl
        have inserted : (start.insert entry.1 entry.2).entries = start.entries ++ [entry] :=
          put_of_not_mem fresh entry.2
        rw [List.foldl_cons, inductionHypothesis, inserted, List.append_assoc,
          List.singleton_append]
        rwa [inserted, List.append_assoc, List.singleton_append]
  exact onto empty entries distinct

end Registry
end OpenApiTypes
