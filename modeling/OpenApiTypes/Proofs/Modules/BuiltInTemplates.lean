import OpenApiTypes.Modules.EndpointTemplates
import OpenApiTypes.Proofs.Document.Endpoints
import OpenApiTypes.Proofs.Template.Plain
import OpenApiTypes.Proofs.TypeScript.Verbatim

namespace OpenApiTypes
namespace Modules

/-!
# The built-in endpoint templates

Both built-in templates are plain: they write texts with the members of the descriptor,
or with the rendered endpoints, between them.  Neither has the name of a template that
writes markup.  So the renderer that they make never fails, and the module is a
concatenation of texts: no member is escaped, and none is read as template text, be it by
the template of its endpoint or by that of the module.  The key of an endpoint is its method
and its path put between quotes as they are.
-/

open Template

/-- The built-in template of one endpoint as texts and variables. -/
def eachTemplate : PlainTemplate where
  start := "\t'"
  places := [
    ("method", " "),
    ("path", "': \x7b path: "),
    ("pathType", "; params: "),
    ("paramsType", "; request: "),
    ("requestType", "; response: "),
    ("responseType", "; \x7d;")]
  start_isPlain := by decide
  places_arePlain := by decide

/-- The built-in template of the module as texts and variables. -/
def moduleTemplate : PlainTemplate where
  start := "export interface Endpoints \x7b\n"
  places := [("content", "\n\x7d")]
  start_isPlain := by decide
  places_arePlain := by decide

theorem source_eachTemplate : eachTemplate.source = builtInEach := by
  apply String.toList_inj.mp
  rw [PlainTemplate.toList_source]
  decide +kernel

theorem source_moduleTemplate : moduleTemplate.source = builtInModule := by
  apply String.toList_inj.mp
  rw [PlainTemplate.toList_source]
  decide +kernel

/-! ## What the renderer writes -/

namespace Descriptor

/-- What the key of the endpoint stands for. -/
def keyText (endpoint : Descriptor) : String :=
  endpoint.method ++ " " ++ endpoint.path

/-- The key of the endpoint in the interface. -/
def writtenKey (endpoint : Descriptor) : String :=
  "'" ++ endpoint.keyText ++ "'"

/-- The member of the endpoint in the interface. -/
def line (endpoint : Descriptor) : String :=
  "\t" ++ endpoint.writtenKey ++ ": \x7b path: " ++ endpoint.pathType ++
    "; params: " ++ endpoint.paramsType ++ "; request: " ++ endpoint.requestType ++
    "; response: " ++ endpoint.responseType ++ "; \x7d;"

end Descriptor

/-- The interface around its members. -/
def interfaceText (members : String) : String :=
  "export interface Endpoints \x7b\n" ++ members ++ "\n\x7d"

/-- The renderer that concatenates texts. -/
def plainRenderer : Renderer where
  endpoint endpoint := .ok endpoint.line
  module members := .ok (interfaceText members)

theorem valueText_bindings (endpoint : Descriptor) :
    eachTemplate.places.map (fun place => valueText false endpoint.bindings place.1) =
      [endpoint.method, endpoint.path, endpoint.pathType, endpoint.paramsType,
        endpoint.requestType, endpoint.responseType] :=
  rfl

theorem isBound_bindings (endpoint : Descriptor) :
    ∀ place ∈ eachTemplate.places, IsBound endpoint.bindings place.1 := by
  simp only [eachTemplate, List.forall_mem_cons]
  exact ⟨rfl, rfl, rfl, rfl, rfl, rfl, nofun⟩

theorem filled_eachTemplate (endpoint : Descriptor) :
    eachTemplate.filled (valueText false endpoint.bindings) = endpoint.line := by
  have values := valueText_bindings endpoint
  have opening : "\t'" = "\t" ++ "'" := rfl
  have closing : "': \x7b path: " = "'" ++ ": \x7b path: " := rfl
  simp only [eachTemplate, List.map_cons, List.map_nil, List.cons.injEq, and_true] at values
  simp only [PlainTemplate.filled, eachTemplate, List.map_cons, List.map_nil, values,
    String.join_cons, String.join_nil, String.append_empty]
  -- Making the equations of definitions with long texts takes seconds, so none is used here.
  delta Descriptor.line Descriptor.writtenKey Descriptor.keyText
  simp only [String.append_assoc]
  rw [opening, closing]
  simp only [String.append_assoc]

theorem filled_moduleTemplate (members : String) :
    moduleTemplate.filled (valueText false [("content", .string members)]) =
      interfaceText members := by
  have value : valueText false [("content", .string members)] "content" = members := rfl
  simp only [PlainTemplate.filled, moduleTemplate, List.map_cons, List.map_nil, value,
    String.join_cons, String.join_nil, String.append_empty]
  exact String.append_assoc.symm

/-- The templates of an endpoints module write no markup. -/
theorem writesMarkup_role (role : TemplateRole) : writesMarkup role.name = false := by
  cases role <;> decide

/-- Both built-in templates are read, and rendering them never fails. -/
theorem templateRenderer_builtIn : templateRenderer {} = .ok plainRenderer := by
  have each : parseTemplate .endpoint builtInEach = .ok eachTemplate.nodes := by
    rw [parseTemplate, ← source_eachTemplate, PlainTemplate.parse?_source]
  have module : parseTemplate .module builtInModule = .ok moduleTemplate.nodes := by
    rw [parseTemplate, ← source_moduleTemplate, PlainTemplate.parse?_source]
  have endpoint (endpoint : Descriptor) :
      render TemplateRole.endpoint.name eachTemplate.nodes endpoint.bindings =
        .ok endpoint.line := by
    rw [PlainTemplate.render_nodes _ _ (isBound_bindings endpoint), writesMarkup_role,
      filled_eachTemplate]
  have members (members : String) :
      render TemplateRole.module.name moduleTemplate.nodes [("content", .string members)] =
        .ok (interfaceText members) := by
    have bound : ∀ place ∈ moduleTemplate.places, IsBound [("content", .string members)] place.1 :=
      List.forall_mem_singleton.mpr rfl
    rw [PlainTemplate.render_nodes _ _ bound, writesMarkup_role, filled_moduleTemplate]
  rw [templateRenderer, Option.getD_none, Option.getD_none, each, module]
  change Except.ok (Renderer.mk _ _) = _
  simp only [endpoint, members]
  rfl

/-- The body of the endpoints module with the built-in templates. -/
def interfaceBody? (settings : Settings) (siblings : Siblings) (document : Document) :
    Option String :=
  match descriptors settings siblings document with
  | [] => none
  | described =>
      some (belowImports (siblingImports settings siblings)
        (interfaceText (String.intercalate "\n" (described.map Descriptor.line))))

/-- No endpoint fails, so the fragments are the lines. -/
theorem mapM_plainRenderer (described : List Descriptor) :
    described.mapM plainRenderer.endpoint = .ok (described.map Descriptor.line) :=
  List.mapM_pure

theorem endpointsBody?_builtIn (settings : Settings) (siblings : Siblings) (document : Document) :
    endpointsBody? settings plainRenderer siblings document =
      .ok (interfaceBody? settings siblings document) := by
  rw [endpointsBody?, interfaceBody?]
  cases descriptors settings siblings document with
  | nil => rfl
  | cons first others =>
      dsimp only
      rw [mapM_plainRenderer]
      rfl

/-- With the built-in templates rendering is concatenation.  It succeeds for all descriptors
and for all texts between the lines of the interface, whatever characters these have: a
member is in its line as it is, the line is in the module as it is, and the module has a line
for each descriptor.  The body of the endpoints module is such a text below its imports. -/
theorem builtIn_concatenates :
    Exists fun renderer : Renderer =>
      templateRenderer {} = .ok renderer ∧
      (forall endpoint : Descriptor, renderer.endpoint endpoint = .ok endpoint.line) ∧
      (forall members : String, renderer.module members = .ok (interfaceText members)) ∧
      (forall described : List Descriptor,
        (do renderer.module (String.intercalate "\n" (<- described.mapM renderer.endpoint))) =
          .ok (interfaceText (String.intercalate "\n" (described.map Descriptor.line)))) ∧
      forall (settings : Settings) (siblings : Siblings) (document : Document),
        endpointsBody? settings renderer siblings document =
          .ok (interfaceBody? settings siblings document) := by
  refine ⟨plainRenderer, templateRenderer_builtIn, fun _ => rfl, fun _ => rfl,
    fun described => ?_, endpointsBody?_builtIn⟩
  rw [mapM_plainRenderer]
  rfl

/-- A descriptor whose members look like parts of templates and of markup. -/
def templateLikeDescriptor : Descriptor where
  method := "get"
  path := "/\x7b\x7b path \x7d\x7d/\x7b% if %\x7d"
  operationId := none
  pathType := "`/\x7b\x7b content \x7d\x7d`"
  paramsType := "\x7b\x7d"
  paramsExpected := false
  paramsRequired := false
  requestType := "Record<string, 'a' & \"\x7b# b #\x7d\">"
  responseType := "never"
  bodyExpected := true
  bodyReturned := false

/-- The name of the template decides about markup, and the text of a member decides nothing. -/
example :
    ((templateRenderer {}).bind fun renderer =>
        (renderer.endpoint templateLikeDescriptor).bind renderer.module).toOption =
      some ("export interface Endpoints \x7b\n" ++
        "\t'get /\x7b\x7b path \x7d\x7d/\x7b% if %\x7d': \x7b " ++
        "path: `/\x7b\x7b content \x7d\x7d`; params: \x7b\x7d; " ++
        "request: Record<string, 'a' & \"\x7b# b #\x7d\">; response: never; \x7d;\n\x7d") ∧
    escapeMarkup "Record<string, 'a'>" = "Record&lt;string, &#x27;a&#x27;&gt;" := by
  decide +kernel

/-! ## Keys -/

/-- Method names need no escapes, so the path decides. -/
theorem standsVerbatim_keyText (settings : Settings) (siblings : Siblings) (endpoint : Endpoint) :
    TypeScript.StandsVerbatim (descriptor settings siblings endpoint).keyText ↔
      TypeScript.StandsVerbatim endpoint.path := by
  have method : TypeScript.StandsVerbatim endpoint.method.name := by
    cases endpoint.method <;> decide
  have space : TypeScript.StandsVerbatim " " := by decide
  change TypeScript.StandsVerbatim (endpoint.method.name ++ " " ++ endpoint.path) ↔ _
  rw [TypeScript.standsVerbatim_append, TypeScript.standsVerbatim_append, and_iff_right method,
    and_iff_right space]

/-- With the built-in templates rendering never fails, and the body is an interface with a
member for each operation.  The key of a member is one string with the method, a space and
the path as its value exactly when the path has no quote, no backslash and no end of a line
in it. -/
theorem builtInKeys_iff (settings : Settings) (siblings : Siblings) (document : Document) :
    Exists fun renderer : Renderer =>
      templateRenderer {} = .ok renderer ∧
      endpointsBody? settings renderer siblings document =
        .ok (interfaceBody? settings siblings document) ∧
      ∀ endpoint ∈ descriptors settings siblings document,
        TypeScript.tokens? endpoint.writtenKey = some [.string endpoint.keyText] ↔
          TypeScript.StandsVerbatim endpoint.path := by
  refine ⟨plainRenderer, templateRenderer_builtIn,
    endpointsBody?_builtIn settings siblings document, fun described listed => ?_⟩
  obtain ⟨endpoint, _, rfl⟩ := List.mem_map.mp listed
  exact (TypeScript.tokens?_inQuotes_iff _).trans
    (standsVerbatim_keyText settings siblings endpoint)

/-- A document with one operation under a path with quotes. -/
def quotedPathDocument : Document :=
  ⟨⟨[("/users('x')", .inline { get := some ⟨none, none, none, .empty⟩ })],
    List.nodup_singleton _⟩, none⟩

/-- The quotes of the path end the key early, while the type of the same path escapes them. -/
theorem quotedPath_key_not_read :
    Exists fun endpoint : Descriptor =>
      endpoint ∈ descriptors {} ⟨false, false⟩ quotedPathDocument ∧
      endpoint.pathType = "'/users(\\'x\\')'" ∧
      TypeScript.tokens? endpoint.writtenKey ≠ some [.string endpoint.keyText] := by
  let endpoint : Endpoint := ⟨.get, "/users('x')", ⟨none, none, none, .empty⟩⟩
  have declared : endpoint ∈ quotedPathDocument.endpoints := List.mem_singleton_self _
  refine ⟨descriptor {} ⟨false, false⟩ endpoint,
    List.mem_map_of_mem ((quotedPathDocument.mem_sortedEndpoints_iff endpoint).mpr declared),
    by decide, fun reads => ?_⟩
  have stands := (standsVerbatim_keyText _ _ _).mp ((TypeScript.tokens?_inQuotes_iff _).mp reads)
  exact absurd stands (by decide)

end Modules
end OpenApiTypes
