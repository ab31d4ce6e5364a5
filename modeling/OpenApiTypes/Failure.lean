import OpenApiTypes.Command.Basic
import OpenApiTypes.Reading.Error
import OpenApiTypes.Settings
import OpenApiTypes.Template.Expr

namespace OpenApiTypes

/-!
# Why no modules are generated

A failure is a cause.  Its kind says which stage gave up, and its message is the label
of the kind with the details of the cause.  Renderers and formatters are given by the
caller and may fail in words of their own.
-/

/-- The stages that give up. -/
inductive FailureKind where
  | io
  | parse
  | config
  | render
  | format
  | general
deriving DecidableEq, Inhabited

namespace FailureKind

/-- What a message of a kind begins with. -/
def label : FailureKind -> String
  | .io => "IO Error: "
  | .parse => "Parse Error: "
  | .config => "Config Error: "
  | .render => "Render Error: "
  | .format => "Format Error: "
  | .general => "General Error: "

/-- The name of a kind. -/
def name : FailureKind -> String
  | .io => "Io"
  | .parse => "Parse"
  | .config => "Config"
  | .render => "Render"
  | .format => "Format"
  | .general => "General"

end FailureKind

/-- The two templates of an endpoints module. -/
inductive TemplateRole where
  /-- The template of one endpoint. -/
  | endpoint
  /-- The template around all endpoints. -/
  | module
deriving DecidableEq, Inhabited

/-- The name of a template. -/
def TemplateRole.name : TemplateRole -> String
  | .endpoint => "endpoint"
  | .module => "module"

/-- Why no modules are generated. -/
inductive Failure where
  /-- The text of the document is not YAML. -/
  | notYaml
  /-- The text is YAML but no API description. -/
  | invalidDocument (error : Reading.Error)
  | invalidSettings (problem : Settings.Problem)
  /-- The text of a template is not a template. -/
  | invalidTemplate (role : TemplateRole)
  /-- The template of one endpoint could not be rendered for an endpoint. -/
  | endpointNotRendered (method path : String) (error : Template.Error)
  | moduleNotRendered (error : Template.Error)
  /-- The formatting command could not be run; `reason` reports why. -/
  | formatterNotRun (program reason : String)
  | formatterFailed (program : String) (status : Command.Status) (errors : String)
  /-- The formatting command wrote octets that are not text. -/
  | formatterNotText (program : String) (fault : Text.Utf8Fault)
  /-- A renderer or a formatter of the caller gave up. -/
  | refused (kind : FailureKind) (text : String)

namespace Failure

/-- The stage that gave up. -/
def kind : Failure -> FailureKind
  | .notYaml => .parse
  | .invalidDocument _ => .parse
  | .invalidSettings _ => .config
  | .invalidTemplate _ => .render
  | .endpointNotRendered _ _ _ => .render
  | .moduleNotRendered _ => .render
  | .formatterNotRun _ _ => .format
  | .formatterFailed _ _ _ => .format
  | .formatterNotText _ _ => .format
  | .refused kind _ => kind

/-- The report of a template that cannot be rendered. -/
def renderingReport (subject : String) (role : TemplateRole) (error : Template.Error) : String :=
  "Failed to render " ++ subject ++ ": Failed to render '" ++ role.name ++ "': " ++
    error.message role.name

/-- The details of the cause. -/
def detail : Failure -> String
  | .notYaml => "Failed to parse OpenAPI YAML"
  | .invalidDocument error => "Invalid OpenAPI document: " ++ error.message
  | .invalidSettings problem => problem.message
  | .invalidTemplate role => "Invalid " ++ role.name ++ " template"
  | .endpointNotRendered method path error =>
      renderingReport (method ++ " " ++ path) .endpoint error
  | .moduleNotRendered error => renderingReport "endpoints module" .module error
  | .formatterNotRun program reason => "Failed to run " ++ program ++ ": " ++ reason
  | .formatterFailed program status errors =>
      program ++ " exited with status " ++ status.text ++ ": " ++ errors
  | .formatterNotText program fault =>
      program ++ " produced invalid UTF-8: " ++ fault.message
  | .refused _ text => text

/-- How a failure is reported. -/
def message (failure : Failure) : String :=
  failure.kind.label ++ failure.detail

end Failure
end OpenApiTypes
