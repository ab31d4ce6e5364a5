namespace OpenApiTypes

/-!
# Registries

Paths, components, responses and media types are registries: named entries in the
order in which the document declares them, no name twice.  The distinctness of names
is part of the type, so a look-up by name and a walk over the entries always agree.
-/

/-- Named entries in declaration order. -/
structure Registry (Entry : Type) where
  entries : List (String × Entry)
  distinct : (entries.map Prod.fst).Nodup := by decide

namespace Registry

variable {Entry Other : Type}

/-- A registry without entries. -/
def empty : Registry Entry := ⟨[], List.nodup_nil⟩

instance : Inhabited (Registry Entry) := ⟨empty⟩

/-- Registries are their entries. -/
theorem ext {first second : Registry Entry} (h : first.entries = second.entries) :
    first = second := by
  cases first
  cases second
  cases h
  rfl

/-- The entry under a name. -/
def get? (registry : Registry Entry) (name : String) : Option Entry :=
  registry.entries.lookup name

/-- Whether the registry has no entry. -/
def isEmpty (registry : Registry Entry) : Bool :=
  registry.entries.isEmpty

/-- The number of entries. -/
def size (registry : Registry Entry) : Nat :=
  registry.entries.length

/-- The names, in declaration order. -/
def names (registry : Registry Entry) : List String :=
  registry.entries.map Prod.fst

/-- Put a value under a name: in its place when the name is present, else last. -/
def put (name : String) (value : Entry) : List (String × Entry) -> List (String × Entry)
  | [] => [(name, value)]
  | (head, old) :: rest =>
      if head = name then (name, value) :: rest
      else (head, old) :: put name value rest

/-- A name is among the names after `put` when it was there or is the new one. -/
theorem mem_names_put (name other : String) (value : Entry) (entries : List (String × Entry)) :
    other ∈ (put name value entries).map Prod.fst ↔
      other = name ∨ other ∈ entries.map Prod.fst := by
  induction entries with
  | nil => simp [put]
  | cons head rest inductionHypothesis =>
      obtain ⟨headName, old⟩ := head
      by_cases same : headName = name
      · simp [put, same]
      · simp only [put, same, if_false, List.map_cons, List.mem_cons, inductionHypothesis]
        exact or_left_comm

/-- Putting an entry keeps the names distinct. -/
theorem nodup_put (name : String) (value : Entry) {entries : List (String × Entry)}
    (h : (entries.map Prod.fst).Nodup) : ((put name value entries).map Prod.fst).Nodup := by
  induction entries with
  | nil => simp [put]
  | cons head rest inductionHypothesis =>
      obtain ⟨headName, old⟩ := head
      simp only [List.map_cons, List.nodup_cons] at h
      by_cases same : headName = name
      · subst same
        simpa [put] using h
      · simp only [put, same, if_false, List.map_cons, List.nodup_cons, mem_names_put]
        exact ⟨fun member => h.1 (member.resolve_left (fun equal => equal.elim)), inductionHypothesis h.2⟩

/-- Put a value under a name. -/
def insert (registry : Registry Entry) (name : String) (value : Entry) : Registry Entry :=
  ⟨put name value registry.entries, nodup_put name value registry.distinct⟩

/-- Read entries from left to right; a later entry replaces an earlier one of its name
and keeps the earlier place. -/
def ofList (entries : List (String × Entry)) : Registry Entry :=
  entries.foldl (fun registry entry => registry.insert entry.1 entry.2) empty

/-- The names of the entries that a filter keeps are among the names. -/
theorem filterMap_names_sublist (keep : String × Entry -> Option Other)
    (entries : List (String × Entry)) :
    ((entries.filterMap (fun entry => (keep entry).map (fun value => (entry.1, value)))).map
      Prod.fst).Sublist (entries.map Prod.fst) := by
  induction entries with
  | nil => exact List.Sublist.refl _
  | cons head rest inductionHypothesis =>
      cases kept : keep head with
      | none => simpa [kept] using inductionHypothesis.cons head.1
      | some value => simpa [kept] using inductionHypothesis.cons_cons head.1

/-- Map the entries and drop those without an image.  Names and order stay. -/
def filterMap (keep : String × Entry -> Option Other) (registry : Registry Entry) :
    Registry Other :=
  ⟨registry.entries.filterMap (fun entry => (keep entry).map (fun value => (entry.1, value))),
    registry.distinct.sublist (filterMap_names_sublist keep registry.entries)⟩

end Registry
end OpenApiTypes
