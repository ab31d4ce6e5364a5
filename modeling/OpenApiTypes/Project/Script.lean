import OpenApiTypes.Project.World

namespace OpenApiTypes
namespace Project

/-!
# Prepared replies

A script answers commands in the order in which they are run, without running anything
and without touching files.  When its replies are used up, every further command ends
well.
-/

/-- A prepared reply. -/
structure Reply where
  /-- The command is not run at all, for this reason. -/
  refusal : Option String := none
  status : Command.Status := .exited 0
  /-- What the command writes; without it, the text that it reads in capitals. -/
  output : Option (List UInt8) := none
  errors : List UInt8 := []
deriving DecidableEq, Inhabited

/-- A small ASCII letter as a capital. -/
def capital (octet : UInt8) : UInt8 :=
  if 97 <= octet && octet <= 122 then octet - 32 else octet

/-- The answer to a command. -/
def Reply.answer (reply : Reply) (invocation : Command.Invocation) :
    Except Command.Fault Command.Output :=
  match reply.refusal with
  | some text => .error (.refused text)
  | none =>
      let echoed := ((invocation.input.getD "").toUTF8.toList).map capital
      .ok ⟨reply.status, reply.output.getD echoed, reply.errors⟩

/-- Answer the commands of a session with prepared replies. -/
def scripted (replies : List Reply) : Executor :=
  fun world invocation =>
    ((replies[world.history.length]?.getD {}).answer invocation, world.files)

end Project
end OpenApiTypes
