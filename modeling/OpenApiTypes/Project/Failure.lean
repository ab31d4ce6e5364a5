import OpenApiTypes.Failure

namespace OpenApiTypes
namespace Project

/-!
# Why a run of a project fails

A run fails when modules cannot be generated, and it also fails around generation: at
files, at the configuration, and at the commands that the configuration names.
-/

/-- The areas in which a run fails. -/
inductive Area where
  | io
  /-- The generation of modules, where the failure has a kind of its own. -/
  | generation (kind : FailureKind)
  | configuration
  | command
  | general
deriving DecidableEq, Inhabited

namespace Area

/-- The name of an area. -/
def name : Area -> String
  | .io => "Io"
  | .generation kind => "Core." ++ kind.name
  | .configuration => "Config"
  | .command => "Command"
  | .general => "General"

/-- What a message of an area begins with. -/
def label : Area -> String
  | .io => "IO Error: "
  | .generation kind => kind.label
  | .configuration => "Config Error: "
  | .command => "Command failed: "
  | .general => "Operation failed: "

/-- A report that names the area and quotes the details. -/
def report (area : Area) (quotedDetail : String) : String :=
  match area with
  | .io => "Io(" ++ quotedDetail ++ ")"
  | .generation kind => "Core(" ++ kind.name ++ "(" ++ quotedDetail ++ "))"
  | .configuration => "Config(" ++ quotedDetail ++ ")"
  | .command => "Command(" ++ quotedDetail ++ ")"
  | .general => "General(" ++ quotedDetail ++ ")"

end Area

/-- Why a run of a project fails. -/
inductive RunFailure where
  | io (problem : Files.Problem)
  | generation (failure : Failure)
  /-- The configuration file that was asked for is not there. -/
  | configNotFound (path : String)
  /-- The text of the configuration file is no configuration. -/
  | configUnreadable
  | noInput
  | noOutput
  /-- A command without a program. -/
  | emptyCommand
  | hookFailed (hook : String) (command : List String) (status : Command.Status)
      (errors : String)
  /-- Whoever runs commands refused to. -/
  | refused (text : String)

namespace RunFailure

/-- The area in which a run failed. -/
def area : RunFailure -> Area
  | .io _ => .io
  | .generation failure => .generation failure.kind
  | .configNotFound _ => .configuration
  | .configUnreadable => .configuration
  | .noInput => .configuration
  | .noOutput => .configuration
  | .emptyCommand => .configuration
  | .hookFailed _ _ _ _ => .command
  | .refused _ => .general

/-- The details of the cause. -/
def detail : RunFailure -> String
  | .io problem => problem.message
  | .generation failure => failure.detail
  | .configNotFound path => "Config file not found: " ++ Text.quoted path
  | .configUnreadable => "Failed to parse config"
  | .noInput => "No input document configured (input-doc)"
  | .noOutput => "No output directory configured (output-dir)"
  | .emptyCommand => "Command must not be empty"
  | .hookFailed hook command status errors =>
      hook ++ " hook `" ++ String.intercalate " " command ++ "` failed with status " ++
        status.text ++ ": " ++ errors
  | .refused text => text

/-- How a failure is reported. -/
def message (failure : RunFailure) : String :=
  failure.area.label ++ failure.detail

/-- How a failure is reported by its parts. -/
def parts (failure : RunFailure) : String :=
  failure.area.report
    (match failure with
    | .io problem => problem.parts
    | other => Text.quoted other.detail)

/-- The failure of a run whose command could not be run. -/
def ofFault : Command.Fault -> RunFailure
  | .io problem => .io problem
  | .refused text => .refused text

end RunFailure
end Project
end OpenApiTypes
