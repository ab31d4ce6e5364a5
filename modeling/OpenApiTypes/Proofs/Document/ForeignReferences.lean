import OpenApiTypes.Proofs.Document.PointerEncoding
import OpenApiTypes.Proofs.Document.ReferenceCycles

namespace OpenApiTypes
namespace Document

/-!
# References to somewhere else

A reference into another file or another registry, and a bare name, do not point to an
entry of the document.  Whether they are refused depends on what is looked at: for a
parameter it is only the segment before the last one, and for a path item every such
segment but one selects the paths.  So a reference to somewhere else is followed to the
entry of the same name as soon as there is one.
-/

/-- A reference to an entry of this registry of the document. -/
def PointsInto (registry target : String) : Prop :=
  ∃ segment : String, '/' ∉ segment.toList ∧ target = "#/" ++ registry ++ "/" ++ segment

def IsParameterPointer (target : String) : Prop :=
  PointsInto "components/parameters" target

/-- A reference to a path or a path item of the document. -/
def IsPathItemPointer (target : String) : Prop :=
  PointsInto "paths" target ∨ PointsInto "components/pathItems" target

/-- Only references to parameters of the document are resolved. -/
def RefusesForeignParameters (document : Document) : Prop :=
  forall (target : String) (parameter : Parameter),
    document.parameter? target = some parameter -> IsParameterPointer target

/-- Only references to paths and path items of the document are followed. -/
def RefusesForeignPathItems (document : Document) : Prop :=
  forall (target : String) (item : PathItem), document.pathItem? target = some item ->
    forall met : String, document.Meets target met -> IsPathItemPointer met

theorem PointsInto.toList {registry target : String} (points : PointsInto registry target) :
    ∃ rest, target.toList = '#' :: '/' :: rest := by
  rcases points with ⟨segment, _, rfl⟩
  have start : "#/".toList = ['#', '/'] := rfl
  refine ⟨(registry ++ "/" ++ segment).toList, ?_⟩
  simp [String.toList_append, start]

theorem PointsInto.registryName? {registry target : String} (points : PointsInto registry target) :
    Pointer.registryName? target =
      (Pointer.segments ("#/" ++ registry)).getLast?.map String.ofList := by
  rcases points with ⟨segment, single, rfl⟩
  exact Pointer.registryName?_append _ single

theorem IsPathItemPointer.toList {target : String} (pointer : IsPathItemPointer target) :
    ∃ rest, target.toList = '#' :: '/' :: rest := by
  rcases pointer with points | points
  · exact points.toList
  · exact points.toList

/-! ## What is looked at -/

theorem pathItemEntry?_iff_endsIn (document : Document) (target : String)
    (entry : Referable PathItem) :
    document.pathItemEntry? target = some entry ↔
      ∃ segment, Pointer.EndsIn target segment ∧
        (Pointer.SelectsRegistry target "pathItems" ∧
            document.StandsAt (.component (Pointer.decodeSegment segment)) entry ∨
          ¬ Pointer.SelectsRegistry target "pathItems" ∧
            document.StandsAt (.path (Pointer.decodeSegment segment)) entry) := by
  rw [pathItemEntry?_eq_some_iff, placeOf, ← Pointer.targetName_iff target (fun name =>
    Pointer.SelectsRegistry target "pathItems" ∧ document.StandsAt (.component name) entry ∨
      ¬ Pointer.SelectsRegistry target "pathItems" ∧ document.StandsAt (.path name) entry),
    ← Pointer.registryName?_eq_some_iff]
  by_cases selects : Pointer.registryName? target = some "pathItems" <;> simp [selects]

/-! ## What is refused -/

theorem refusesForeignParameters_iff (document : Document) :
    document.RefusesForeignParameters ↔
      ∀ components ∈ document.components, components.parameters.entries = [] := by
  constructor
  · intro refuses components declared
    rw [List.eq_nil_iff_forall_not_mem]
    rintro ⟨name, parameter⟩ member
    have resolved : document.parameter? ("parameters" ++ "/" ++ Pointer.encode name) =
        some parameter := by
      rw [parameter?, Pointer.registryName?_encode, if_pos (by decide), Pointer.targetName_encode,
        declared]
      exact (Registry.get?_eq_some_iff ..).mpr member
    rcases PointsInto.toList (refuses _ _ resolved) with ⟨rest, shape⟩
    have start : "parameters".toList = 'p' :: "arameters".toList := rfl
    rw [String.toList_append, String.toList_append, start] at shape
    exact absurd (List.cons.inj shape).1 (by decide)
  · intro empty target parameter found
    rcases (parameter?_eq_some_iff ..).mp found with ⟨_, _, _, components, declared, member⟩
    rw [empty components declared] at member
    cases member

theorem refusesForeignPathItems_iff (document : Document) :
    document.RefusesForeignPathItems ↔
      forall (place : EntryPlace) (item : PathItem), ¬ document.StandsAt place (.inline item) := by
  constructor
  · intro refuses place item stands
    have reached {target : String} (names : placeOf target = place) : IsPathItemPointer target := by
      have found : document.pathItem? target = some item := by
        rw [pathItem?_eq_some_iff]
        refine .reference ?_ (.inline item)
        rwa [pathItemEntry?_eq_some_iff, names]
      exact refuses target item found target (.first target)
    cases place with
    | path name =>
        have single := Pointer.slash_notMem_encode name
        have bare : placeOf (Pointer.encode name) = .path name := by
          rw [placeOf, Pointer.registryName?_of_single single, if_neg (by simp),
            Pointer.targetName_of_endsIn (.whole single), Pointer.decodeSegment_encode]
        rcases (reached bare).toList with ⟨rest, shape⟩
        apply single
        simp [shape]
    | component name =>
        have relative : placeOf ("pathItems" ++ "/" ++ Pointer.encode name) = .component name := by
          rw [placeOf, Pointer.registryName?_encode, if_pos (by decide), Pointer.targetName_encode]
        rcases (reached relative).toList with ⟨rest, shape⟩
        have start : "pathItems".toList = 'p' :: "athItems".toList := rfl
        rw [String.toList_append, String.toList_append, start] at shape
        exact absurd (List.cons.inj shape).1 (by decide)
  · intro absent target item found
    rw [pathItem?_eq_some_iff, reaches_reference_iff, ← arrives_iff] at found
    rcases found with ⟨last, _, stands⟩
    exact absurd stands (absent _ item)

/-- A parameter reference is resolved, and a path item reference is followed, by the last
two segments alone.  So references to somewhere else are refused exactly by the documents
that have nothing for them to be followed to: no component parameter, and neither among the
paths nor among the path items a definition. -/
theorem refusesForeignReferences_iff (document : Document) :
    (forall (target : String) (parameter : Parameter),
      document.parameter? target = some parameter ↔
        Pointer.SelectsRegistry target "parameters" ∧
          ∃ segment, Pointer.EndsIn target segment ∧ ∃ components ∈ document.components,
            (Pointer.decodeSegment segment, parameter) ∈ components.parameters.entries) ∧
    (forall (target : String) (entry : Referable PathItem),
      document.pathItemEntry? target = some entry ↔
        ∃ segment, Pointer.EndsIn target segment ∧
          (Pointer.SelectsRegistry target "pathItems" ∧
              document.StandsAt (.component (Pointer.decodeSegment segment)) entry ∨
            ¬ Pointer.SelectsRegistry target "pathItems" ∧
              document.StandsAt (.path (Pointer.decodeSegment segment)) entry)) ∧
    (document.RefusesForeignParameters ↔
      ∀ components ∈ document.components, components.parameters.entries = []) ∧
    (document.RefusesForeignPathItems ↔
      forall (place : EntryPlace) (item : PathItem), ¬ document.StandsAt place (.inline item)) :=
  ⟨document.parameter?_eq_some_iff, document.pathItemEntry?_iff_endsIn,
    document.refusesForeignParameters_iff, document.refusesForeignPathItems_iff⟩

/-- A document with one path. -/
def listedUsers : Document :=
  ⟨⟨[("/users", .inline { get := some ⟨none, none, none, .empty⟩ })], List.nodup_singleton _⟩, none⟩

/-- A reference into the component schemas is followed to the path of that name. -/
theorem pathItem?_schemaPointer :
    (listedUsers.pathItem? "#/components/schemas/~1users").isSome ∧
      ¬ IsPathItemPointer "#/components/schemas/~1users" := by
  have registry : Pointer.registryName? "#/components/schemas/~1users" = some "schemas" := by
    decide
  refine ⟨by decide, ?_⟩
  rintro (points | points)
  · rw [points.registryName?] at registry
    exact absurd registry (by decide)
  · rw [points.registryName?] at registry
    exact absurd registry (by decide)

end Document
end OpenApiTypes
