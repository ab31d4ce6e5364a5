import OpenApiTypes.Files.Path
import OpenApiTypes.Files.Problem
import OpenApiTypes.Text.Utf8

namespace OpenApiTypes
namespace Files

/-!
# File trees

A tree holds files and directories, each under the list of names that leads to it from
the root, and says which directory is the working directory.  The root, the working
directory and the directories between them are always there.  A path starts at the root
or at the working directory, and it is resolved name by name, because going up is
possible only from a directory that is there.
-/

/-- The names that lead from the root to a file or directory. -/
abbrev Place := List String

/-- The directory that a place is in.  The root is in itself. -/
def enclosing (place : Place) : Place :=
  place.dropLast

/-- What is at a place. -/
inductive Node where
  | file (content : List UInt8)
  | directory
deriving DecidableEq, Inhabited

/-- Files and directories, with a working directory. -/
structure Tree where
  nodes : List (Place × Node) := []
  /-- The working directory. -/
  home : Place := []
deriving Inhabited

namespace Tree

/-! ## Places -/

/-- Whether a place is the working directory or one of the directories around it. -/
def isAround (tree : Tree) (place : Place) : Bool :=
  place.isPrefixOf tree.home

/-- What is at a place. -/
def node? (tree : Tree) (place : Place) : Option Node :=
  if tree.isAround place then some .directory else tree.nodes.lookup place

/-- Put something at a place. -/
def set (tree : Tree) (place : Place) (node : Node) : Tree :=
  { tree with
    nodes := (place, node) :: tree.nodes.filter (fun entry => entry.1 != place) }

/-- Remove what is at a place, with everything inside it. -/
def erase (tree : Tree) (place : Place) : Tree :=
  { tree with nodes := tree.nodes.filter (fun entry => !place.isPrefixOf entry.1) }

/-! ## Resolving paths -/

/-- How many octets a name may have. -/
def longestName : Nat := 255

/-- How many octets a path may have. -/
def longestPath : Nat := 4095

/-- Enter a directory. -/
def enter (tree : Tree) (place : Place) : Except Problem Place :=
  match tree.node? place with
  | some .directory => .ok place
  | some (.file _) => .error .notDirectory
  | none => .error .notFound

/-- The place that names lead to from a directory.  Every name but the last must lead to
a directory. -/
def follow (tree : Tree) (place : Place) : List String -> Except Problem Place
  | [] => .ok place
  | name :: rest => do
      let here <- tree.enter place
      if name.utf8ByteSize > longestName then throw .nameTooLong
      let next :=
        if name = "." then here else if name = ".." then enclosing here else here ++ [name]
      tree.follow next rest

/-- The place where a path starts. -/
def startOf (tree : Tree) (path : String) : Place :=
  if isAbsolute path then [] else tree.home

/-- The place that a path leads to.  The empty path leads nowhere, and the end mark of
system strings cannot stand in a path. -/
def resolve (tree : Tree) (path : String) : Except Problem Place :=
  if path.toList.contains '\x00' then
    .error (.unfit "file name contained an unexpected NUL byte")
  else if path = "" then .error .notFound
  else if path.utf8ByteSize > longestPath then .error .nameTooLong
  else tree.follow (tree.startOf path) (parts path)

/-- What a path leads to. -/
def at? (tree : Tree) (path : String) : Except Problem Node := do
  let place <- tree.resolve path
  match tree.node? place with
  | none => .error .notFound
  | some .directory => .ok .directory
  | some (.file content) =>
      if asksForDirectory path then .error .notDirectory else .ok (.file content)

/-- Whether there is something at a path. -/
def isThere (tree : Tree) (path : String) : Bool :=
  (tree.at? path).isOk

/-- Whether there is a directory at a path. -/
def isDirectory (tree : Tree) (path : String) : Bool :=
  match tree.at? path with
  | .ok .directory => true
  | _ => false

/-! ## Files -/

/-- Read a file as text. -/
def readText (tree : Tree) (path : String) : Except Problem String := do
  match <- tree.at? path with
  | .directory => .error .isDirectory
  | .file content => (Text.decodeStrict content).mapError (fun _ => .notText)

/-- Write a file.  The directory that it is in must be there. -/
def write (tree : Tree) (path : String) (content : List UInt8) : Except Problem Tree := do
  let place <- tree.resolve path
  match tree.node? place with
  | some .directory => .error .isDirectory
  | some (.file _) =>
      if asksForDirectory path then .error .notDirectory else .ok (tree.set place (.file content))
  | none =>
      if asksForDirectory path then .error .isDirectory else .ok (tree.set place (.file content))

/-- Write text to a file. -/
def writeText (tree : Tree) (path text : String) : Except Problem Tree :=
  tree.write path text.toUTF8.toList

/-! ## Directories -/

/-- Make a directory inside one that is there. -/
def makeDirectory (tree : Tree) (path : String) : Except Problem Tree := do
  let place <- tree.resolve path
  match tree.node? place with
  | some _ => .error .exists
  | none => .ok (tree.set place .directory)

/-- Make a directory, unless it is there already. -/
def ensureDirectory (tree : Tree) (path : String) : Except Problem Tree :=
  match tree.makeDirectory path with
  | .ok made => .ok made
  | .error problem => if tree.isDirectory path then .ok tree else .error problem

/-- Make a directory.  When what is around it is missing, the outcome of making that
decides, and the directory is asked for once more. -/
def makeDirectoryAfter (tree : Tree) (path : String) (around : Except Problem Unit × Tree) :
    Except Problem Unit × Tree :=
  match tree.makeDirectory path with
  | .ok made => (.ok (), made)
  | .error .notFound =>
      match around with
      | (.error problem, made) => (.error problem, made)
      | (.ok (), made) =>
          match made.ensureDirectory path with
          | .ok all => (.ok (), all)
          | .error problem => (.error problem, made)
  | .error problem => (if tree.isDirectory path then .ok () else .error problem, tree)

/-- Make a directory and, where they are missing, the directories around it, whose names
are given from the innermost one on.  What was made stays when a later step fails. -/
def makeDirectoryWithin (tree : Tree) (path : String) :
    List String -> Except Problem Unit × Tree
  | [] => tree.makeDirectoryAfter path (.ok (), tree)
  | innermost :: outer =>
      tree.makeDirectoryAfter path
        (tree.makeDirectoryWithin (withNames path (innermost :: outer).reverse) outer)

/-- Make a directory and the directories around it, as far as they are missing. -/
def makeDirectories (tree : Tree) (path : String) : Except Problem Unit × Tree :=
  if path = "" then (.ok (), tree)
  else tree.makeDirectoryWithin path (components path).dropLast.reverse

/-- Remove the TypeScript files directly inside a directory. -/
def clean (tree : Tree) (path : String) : Except Problem Tree :=
  match tree.resolve path with
  | .error _ => .error (.unlisted path)
  | .ok place =>
      .ok { tree with nodes := tree.nodes.filter (fun entry =>
        match entry.1.getLast?, entry.2 with
        | some name, .file _ => !(isTypeScript name && entry.1 = place ++ [name])
        | _, _ => true) }

end Tree
end Files
end OpenApiTypes
