import OpenApiTypes.CommandLine
import OpenApiTypes.Files.Difference
import OpenApiTypes.Shell.Execution

/-!
# The program

The files that a command line can need are read: those below the working directory, and
those at the paths that it names elsewhere.  The command line is carried out on them, and
what changed is written back.  Commands of a project are run by the tools of this library.
-/

namespace OpenApiTypes
namespace Program

/-- Run the commands of a project with the tools of this library. -/
def executor : Project.Executor :=
  fun world invocation => Shell.execute world.files invocation

/-! ## Reading files -/

/-- Read what is directly at some paths, with the directories around them. -/
def readPaths (paths : List String) : IO (List (Files.Place × Files.Node)) := do
  let root <- IO.currentDir
  let nodes <- paths.mapM (fun (path : String) => do
    let place := Files.parts path
    let around := (List.range place.length).map (fun length =>
      (place.take length, Files.Node.directory))
    if <- (root / path).isDir then pure ((place, Files.Node.directory) :: around)
    else
      let content <- IO.FS.readBinFile path
      pure ((place, Files.Node.file content.toList) :: around))
  pure nodes.flatten

/-- The paths at and directly inside the given ones, as far as there is anything. -/
def pathsAt (paths : List String) : IO (List String) := do
  let root <- IO.currentDir
  let there <- paths.filterM (fun (path : String) => (root / path).pathExists)
  let found <- there.mapM (fun (path : String) => do
    let here <- IO.FS.realPath path
    let inside <- if <- here.isDir then here.readDir else pure #[]
    pure (here.toString :: inside.toList.map (fun entry => entry.path.toString)))
  pure found.flatten

/-- Read the files below the working directory, and those at other paths. -/
def readTree (others : List String) : IO Files.Tree := do
  let root <- IO.currentDir
  let below <- root.walkDir (fun _ => pure true)
  let elsewhere <- pathsAt others
  let nodes <- readPaths (below.toList.map (fun path => path.toString) ++ elsewhere)
  pure { nodes, home := Files.parts root.toString }

/-- The options of a command line. -/
def optionsOf (arguments : List String) : Project.Options :=
  match CommandLine.parse arguments with
  | .ok (.generate options _) => options
  | .ok (.inspect options) => options
  | _ => {}

/-- Read the files that a command line can need.  What else it names is known once its
configuration is. -/
def readFor (arguments : List String) : IO Files.Tree := do
  let options := optionsOf arguments
  let configured := Project.configure options (<- readTree options.config.toList)
  let named :=
    match configured with
    | .ok config => config.input.toList ++ config.output.toList
    | .error _ => []
  readTree (options.config.toList ++ named)

/-! ## Writing files -/

/-- Carry the difference between two trees over to the system. -/
def writeBack (before later : Files.Tree) : IO Unit := do
  let root <- IO.currentDir
  for (place, node) in before.removed later do
    let path := root / Files.withNames "/" place
    if <- path.pathExists then
      match node with
      | .file _ => IO.FS.removeFile path
      | .directory => IO.FS.removeDirAll path
  for (place, node) in (before.changed later).reverse do
    let path := root / Files.withNames "/" place
    match node with
    | .directory => IO.FS.createDirAll path
    | .file content =>
        if let some directory := path.parent then IO.FS.createDirAll directory
        IO.FS.writeBinFile path ⟨content.toArray⟩

end Program
end OpenApiTypes

open OpenApiTypes in
/-- Carry out a command line. -/
def main (arguments : List String) : IO UInt32 := do
  let files <- Program.readFor arguments
  let (report, world) := (CommandLine.execute Program.executor arguments).run { files }
  Program.writeBack files world.files
  IO.print report.output
  IO.eprint report.errors
  pure (UInt32.ofNat report.code)
