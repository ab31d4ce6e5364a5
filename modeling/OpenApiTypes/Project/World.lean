import OpenApiTypes.Files.Tree
import OpenApiTypes.Project.Failure

namespace OpenApiTypes
namespace Project

/-!
# What a run sees and changes

A run sees files and may have commands run.  Whoever runs them is not part of a run: an
executor answers each command, and nothing is assumed of it.  In particular it may answer
the same command differently the next time and may leave other files behind.  A session
keeps the files and the commands also when it fails, so that a failure does not hide what
was done before it.
-/

/-- The files, and the commands run so far. -/
structure World where
  files : Files.Tree := {}
  /-- The commands, the first one first. -/
  history : List Command.Invocation := []
deriving Inhabited

/-- Whoever runs commands: how a command ends, and the files after it. -/
abbrev Executor :=
  World -> Command.Invocation -> Except Command.Fault Command.Output × Files.Tree

/-- A part of a run, which may fail. -/
abbrev Session := ExceptT RunFailure (StateM World)

namespace Session

/-- A result that does not touch the world. -/
def ofExcept {Result : Type} (result : Except RunFailure Result) : Session Result :=
  ExceptT.mk (pure result)

/-- A view of the files. -/
def view {Result : Type} (look : Files.Tree -> Except RunFailure Result) : Session Result := do
  let world <- get
  ofExcept (look world.files)

/-- A change of the files in several steps.  When it fails, the steps before stay. -/
def changeBySteps (operation : Files.Tree -> Except Files.Problem Unit × Files.Tree) :
    Session Unit := do
  let world <- get
  let done := operation world.files
  set { world with files := done.2 }
  ofExcept (done.1.mapError RunFailure.io)

/-- A change of the files.  A change that fails leaves the files as they are. -/
def change (operation : Files.Tree -> Except Files.Problem Files.Tree) : Session Unit :=
  changeBySteps (fun files =>
    match operation files with
    | .ok changed => (.ok (), changed)
    | .error problem => (.error problem, files))

end Session

/-- Have a command run. -/
def perform (executor : Executor) (invocation : Command.Invocation) :
    StateM World (Except Command.Fault Command.Output) := do
  let world <- get
  let answer := executor world invocation
  set (World.mk answer.2 (world.history ++ [invocation]))
  pure answer.1

end Project
end OpenApiTypes
