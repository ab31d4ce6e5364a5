import OpenApiTypes.Project.World

namespace OpenApiTypes
namespace Project

/-!
# Hooks and the formatter

A hook is run for its effect and reads nothing.  A formatter reads a source and writes
it formatted.  Both must end well, and what they wrote on their error output becomes
part of the failure when they do not.
-/

/-- The program and the arguments of a configured command. -/
def splitCommand (command : List String) : Except RunFailure (String × List String) :=
  match Command.split? command with
  | some split => .ok split
  | none => .error .emptyCommand

/-- Run a hook. -/
def runHook (executor : Executor) (hook : String) (command : List String) : Session Unit := do
  let (program, arguments) <- Session.ofExcept (splitCommand command)
  match <- (perform executor ⟨program, arguments, none⟩ : StateM World _) with
  | .error fault => throw (.ofFault fault)
  | .ok output =>
      if output.status.isSuccess then pure ()
      else throw (.hookFailed hook command output.status output.errorText)

/-- Run a hook when it is configured. -/
def runHook? (executor : Executor) (hook : String) : Option (List String) -> Session Unit
  | none => pure ()
  | some command => runHook executor hook command

/-- What a formatter made of a source. -/
def formatted (program : String) :
    Except Command.Fault Command.Output -> Except Failure String
  | .error fault => .error (.formatterNotRun program (RunFailure.ofFault fault).message)
  | .ok output =>
      if output.status.isSuccess then
        (Text.decodeStrict output.output).mapError (.formatterNotText program)
      else .error (.formatterFailed program output.status output.errorText)

/-- Format a source with a program. -/
def formatWith (executor : Executor) (program : String) (arguments : List String)
    (source : String) : StateM World (Except Failure String) := do
  let answer <- perform executor ⟨program, arguments, some source⟩
  pure (formatted program answer)

end Project
end OpenApiTypes
