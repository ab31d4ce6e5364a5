import OpenApiTypes.Text.Quoted

namespace OpenApiTypes
namespace Files

/-!
# Why a file operation fails

The operating system reports a number with a message.  Two more problems arise above
it: octets that are read as text need not be text, and listing a directory names the
path that could not be listed.
-/

/-- Why a file operation fails. -/
inductive Problem where
  | notFound
  | exists
  | notDirectory
  | isDirectory
  | notPermitted
  | nameTooLong
  /-- A name or an argument that cannot be handed to the operating system. -/
  | unfit (text : String)
  /-- There is nothing at a path that is to be listed. -/
  | unlisted (path : String)
  /-- Octets are not UTF-8. -/
  | notText
  /-- A problem that another program reports in its own words. -/
  | reported (text : String)
deriving DecidableEq, Inhabited

namespace Problem

/-- The number, the kind and the message of a problem that the operating system
reports. -/
def system? : Problem -> Option (Nat × String × String)
  | .notFound => some (2, "NotFound", "No such file or directory")
  | .exists => some (17, "AlreadyExists", "File exists")
  | .notDirectory => some (20, "NotADirectory", "Not a directory")
  | .isDirectory => some (21, "IsADirectory", "Is a directory")
  | .notPermitted => some (13, "PermissionDenied", "Permission denied")
  | .nameTooLong => some (36, "InvalidFilename", "File name too long")
  | _ => none

/-- The message with the number. -/
def systemMessage (number : Nat) (message : String) : String :=
  message ++ " (os error " ++ toString number ++ ")"

/-- The short report of a problem. -/
def message (problem : Problem) : String :=
  match problem with
  | .unlisted path =>
      "IO error for operation on " ++ path ++ ": " ++
        systemMessage 2 "No such file or directory"
  | .notText => "stream did not contain valid UTF-8"
  | .unfit text => text
  | .reported text => text
  | other =>
      match other.system? with
      | some (number, _, message) => systemMessage number message
      | none => ""

/-- The parts of a problem that the operating system reports. -/
def systemParts (number : Nat) (kind message : String) : String :=
  "Os \x7b code: " ++ toString number ++ ", kind: " ++ kind ++ ", message: " ++
    Text.quoted message ++ " \x7d"

/-- The parts of a problem that has a kind and a message but no number. -/
def plainParts (kind message : String) : String :=
  "Error \x7b kind: " ++ kind ++ ", message: " ++ Text.quoted message ++ " \x7d"

/-- The report of a problem part by part. -/
def parts (problem : Problem) : String :=
  match problem with
  | .unlisted path =>
      "Custom \x7b kind: NotFound, error: Error \x7b depth: 0, inner: Io \x7b path: Some(" ++
        Text.quoted path ++ "), err: " ++
        systemParts 2 "NotFound" "No such file or directory" ++ " \x7d \x7d \x7d"
  | .notText => plainParts "InvalidData" "stream did not contain valid UTF-8"
  | .unfit text => plainParts "InvalidInput" text
  | .reported text => "Custom \x7b kind: Other, error: " ++ Text.quoted text ++ " \x7d"
  | other =>
      match other.system? with
      | some (number, kind, message) => systemParts number kind message
      | none => ""

end Problem
end Files
end OpenApiTypes
