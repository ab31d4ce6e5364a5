import OpenApiTypes.Document.Resolution
import OpenApiTypes.Proofs.Registry.Lookup
import OpenApiTypes.Proofs.Text.Pieces

namespace OpenApiTypes

/-!
# The last two segments of a reference

Of a reference only its last two segments are looked at.  What stands before them, be it
the name of another file, another registry or nothing at all, is not.
-/

namespace Pointer

/-- The text is the last segment: no slash is in it, and it follows a slash or is all there
is. -/
inductive EndsIn : String -> String -> Prop
  | whole {segment : String} (single : '/' ∉ segment.toList) : EndsIn segment segment
  | after (before : String) {segment : String} (single : '/' ∉ segment.toList) :
      EndsIn (before ++ "/" ++ segment) segment

/-- The segment before the last one is this. -/
inductive SelectsRegistry : String -> String -> Prop
  | before {registry segment : String} {start : String} (ends : EndsIn start registry)
      (single : '/' ∉ segment.toList) : SelectsRegistry (start ++ "/" ++ segment) registry

theorem segments_of_single {segment : String} (single : '/' ∉ segment.toList) :
    segments segment = [segment.toList] :=
  Text.splitAt_of_not_mem single

theorem segments_append (before : String) {segment : String} (single : '/' ∉ segment.toList) :
    segments (before ++ "/" ++ segment) = segments before ++ [segment.toList] := by
  have slash : "/".toList = ['/'] := rfl
  rw [segments, String.toList_append, String.toList_append, slash, List.append_assoc,
    List.singleton_append, Text.splitAt_append, Text.splitAt_of_not_mem single]
  rfl

theorem exists_endsIn (target : String) : ∃ segment, EndsIn target segment := by
  by_cases slash : '/' ∈ target.toList
  · rcases Text.exists_last_separator slash with ⟨before, last, shape, absent⟩
    have single : '/' ∉ (String.ofList last).toList := by rwa [String.toList_ofList]
    have joined : target = String.ofList before ++ "/" ++ String.ofList last := by
      rw [← String.toList_inj]
      simpa using shape
    rw [joined]
    exact ⟨_, .after _ single⟩
  · exact ⟨target, .whole slash⟩

theorem getLast?_segments {target segment : String} (ends : EndsIn target segment) :
    (segments target).getLast? = some segment.toList := by
  cases ends with
  | whole single => rw [segments_of_single single, List.getLast?_singleton]
  | after before single => rw [segments_append before single, List.getLast?_concat]

theorem targetName_of_endsIn {target segment : String} (ends : EndsIn target segment) :
    targetName target = decodeSegment segment := by
  rw [targetName, getLast?_segments ends]
  rfl

theorem targetName_iff (target : String) (holds : String -> Prop) :
    holds (targetName target) ↔
      ∃ segment, EndsIn target segment ∧ holds (decodeSegment segment) := by
  constructor
  · intro here
    rcases exists_endsIn target with ⟨segment, ends⟩
    rw [targetName_of_endsIn ends] at here
    exact ⟨segment, ends, here⟩
  · rintro ⟨segment, ends, here⟩
    rwa [targetName_of_endsIn ends]

theorem registryName?_append (before : String) {segment : String}
    (single : '/' ∉ segment.toList) :
    registryName? (before ++ "/" ++ segment) =
      (segments before).getLast?.map String.ofList := by
  rw [registryName?, segments_append before single, List.dropLast_concat]

theorem registryName?_of_single {segment : String} (single : '/' ∉ segment.toList) :
    registryName? segment = none := by
  rw [registryName?, segments_of_single single]
  rfl

theorem registryName?_of_selects {target registry : String}
    (selects : SelectsRegistry target registry) : registryName? target = some registry := by
  cases selects with
  | before ends single =>
      rw [registryName?_append _ single, getLast?_segments ends, Option.map_some,
        String.ofList_toList]

theorem registryName?_eq_some_iff (target registry : String) :
    registryName? target = some registry ↔ SelectsRegistry target registry := by
  refine ⟨fun found => ?_, registryName?_of_selects⟩
  rcases exists_endsIn target with ⟨segment, single | ⟨before, single⟩⟩
  · rw [registryName?_of_single single] at found
    cases found
  · rcases exists_endsIn before with ⟨other, ends⟩
    have selects := SelectsRegistry.before ends single
    rw [registryName?_of_selects selects] at found
    rwa [← Option.some.inj found]

end Pointer

namespace Document

/-! ## The parameter that a reference names -/

/-- A reference names a component parameter: the last segment but one is `parameters`, and
the parameter stands in the components under what the last one decodes to. -/
def NamesParameter (document : Document) (target : String) (parameter : Parameter) : Prop :=
  Pointer.SelectsRegistry target "parameters" ∧
    ∃ segment, Pointer.EndsIn target segment ∧ ∃ components ∈ document.components,
      (Pointer.decodeSegment segment, parameter) ∈ components.parameters.entries

theorem parameter?_eq_some_iff (document : Document) (target : String) (parameter : Parameter) :
    document.parameter? target = some parameter ↔ document.NamesParameter target parameter := by
  rw [parameter?, Option.ite_none_right_eq_some, Pointer.registryName?_eq_some_iff,
    Option.bind_eq_some_iff]
  simp only [Registry.get?_eq_some_iff]
  exact and_congr_right (fun _ => Pointer.targetName_iff target (fun name =>
    ∃ components ∈ document.components, (name, parameter) ∈ components.parameters.entries))

theorem parameter?_eq_none_iff (document : Document) (target : String) :
    document.parameter? target = none ↔
      forall parameter : Parameter, ¬ document.NamesParameter target parameter := by
  simp only [Option.eq_none_iff_forall_ne_some, ne_eq, parameter?_eq_some_iff]

end Document
end OpenApiTypes
