import OpenApiTypes.Files.Problem
import OpenApiTypes.Text.Blank
import OpenApiTypes.Text.Utf8

namespace OpenApiTypes
namespace Command

/-!
# Commands

A project may name commands that format sources or run around generation.  A command is
a program with its arguments and perhaps a text to read; it ends with a status and
leaves octets on its two outputs.
-/

/-- A command to run. -/
structure Invocation where
  program : String
  arguments : List String
  /-- The text that the command reads, when it is given one. -/
  input : Option String
deriving DecidableEq, Inhabited

/-- How a command ended. -/
inductive Status where
  | exited (code : Nat)
  | killed (signal : Nat)
deriving DecidableEq, Inhabited

/-- Whether a command did what it was asked to. -/
def Status.isSuccess : Status -> Bool
  | .exited code => code == 0
  | .killed _ => false

/-- The names of the signals, from the first one on. -/
def signalNames : List String := [
  "SIGHUP", "SIGINT", "SIGQUIT", "SIGILL", "SIGTRAP", "SIGABRT", "SIGBUS", "SIGFPE",
  "SIGKILL", "SIGUSR1", "SIGSEGV", "SIGUSR2", "SIGPIPE", "SIGALRM", "SIGTERM",
  "SIGSTKFLT", "SIGCHLD", "SIGCONT", "SIGSTOP", "SIGTSTP", "SIGTTIN", "SIGTTOU",
  "SIGURG", "SIGXCPU", "SIGXFSZ", "SIGVTALRM", "SIGPROF", "SIGWINCH", "SIGIO", "SIGPWR",
  "SIGSYS"]

/-- The name of a signal in parentheses, when it has one. -/
def signalSuffix (signal : Nat) : String :=
  if signal = 0 then ""
  else
    match signalNames[signal - 1]? with
    | some name => " (" ++ name ++ ")"
    | none => ""

/-- How a status is reported. -/
def Status.text : Status -> String
  | .exited code => "exit status: " ++ toString code
  | .killed signal => "signal: " ++ toString signal ++ signalSuffix signal

/-- What a command leaves behind. -/
structure Output where
  status : Status
  output : List UInt8
  errors : List UInt8
deriving Inhabited

/-- What a command wrote on its error output, without blanks around it. -/
def Output.errorText (output : Output) : String :=
  Text.trim (Text.decodeLossy output.errors)

/-- Why a command could not be run at all. -/
inductive Fault where
  /-- The program could not be started. -/
  | io (problem : Files.Problem)
  /-- Whoever runs commands refuses to. -/
  | refused (text : String)
deriving DecidableEq, Inhabited

/-- The program and the arguments of a command line.  Without a program there is
nothing to run. -/
def split? : List String -> Option (String × List String)
  | [] => none
  | program :: arguments => if program = "" then none else some (program, arguments)

end Command
end OpenApiTypes
