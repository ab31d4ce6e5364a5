import OpenApiTypes.Command.Basic
import OpenApiTypes.Shell.Syntax
import OpenApiTypes.Shell.Tools

namespace OpenApiTypes
namespace Shell

/-!
# Running commands

A program is one of the known tools, or the shell with a command line.  Nothing outside
the files that are given is touched, and a program that is not known is reported as
missing.
-/

/-! ## The state of a command line -/

/-- What a command line has left to read and has written so far. -/
structure State where
  files : Files.Tree
  input : List UInt8
  output : List UInt8 := []
  errors : List UInt8 := []
  /-- How the last command ended. -/
  status : Nat := 0

/-- How a command line ends before its end. -/
inductive Stop where
  | exit (code : Nat)
  | kill (signal : Nat)
deriving DecidableEq, Inhabited

/-- The number of the process that reads the line. -/
def processNumber : String := "2"

/-- The text of a word. -/
def expandWord (status : Nat) (word : Word) : String :=
  String.join (word.map (fun piece =>
    match piece with
    | .text value => value
    | .process => processNumber
    | .status => toString status))

/-! ## Redirections -/

/-- Where a stream goes. -/
inductive Sink where
  | output
  | errors
  | nowhere
  | file (path : String)
deriving DecidableEq, Inhabited

/-- Where the streams of a command come from and go to. -/
structure Streams where
  /-- Octets that are read in place of those of the line. -/
  input : Option (List UInt8) := none
  output : Sink := .output
  errors : Sink := .errors

/-- The sink of a numbered stream. -/
def Streams.sink (streams : Streams) (number : Nat) : Sink :=
  if number = 2 then streams.errors else streams.output

/-- Send a numbered stream elsewhere. -/
def Streams.send (streams : Streams) (number : Nat) (sink : Sink) : Streams :=
  if number = 2 then { streams with errors := sink } else { streams with output := sink }

/-- The place where octets vanish. -/
def nowherePath : String := "/dev/null"

/-- Send octets to a sink. -/
def State.deliver (state : State) (sink : Sink) (content : List UInt8) : State :=
  match sink with
  | .output => { state with output := state.output ++ content }
  | .errors => { state with errors := state.errors ++ content }
  | .nowhere => state
  | .file path =>
      let before :=
        match state.files.at? path with
        | .ok (.file content) => content
        | _ => []
      match state.files.write path (before ++ content) with
      | .ok files => { state with files }
      | .error _ => state

/-- A complaint of the shell about a line. -/
def shellComplaint (text : String) : List UInt8 :=
  octets ("sh: 1: " ++ text ++ "\n")

/-- Open the target of a redirection; the error is what the shell complains of. -/
def redirect (state : State) (streams : Streams) (redirection : Redirection) :
    Except String (State × Streams) :=
  let target := expandWord state.status redirection.target
  match redirection.mode with
  | .copy =>
      match target.toNat? with
      | some number => .ok (state, streams.send redirection.stream (streams.sink number))
      | none => .error "Syntax error: Bad fd number"
  | .read =>
      if target = nowherePath then .ok (state, { streams with input := some [] })
      else
        match state.files.at? target with
        | .ok (.file content) => .ok (state, { streams with input := some content })
        | .ok .directory => .ok (state, { streams with input := some [] })
        | .error _ => .error ("cannot open " ++ target ++ ": No such file")
  | mode =>
      if target = nowherePath then .ok (state, streams.send redirection.stream .nowhere)
      else
        let kept :=
          match mode, state.files.at? target with
          | .append, .ok (.file content) => content
          | _, _ => []
        match state.files.write target kept with
        | .ok files => .ok ({ state with files }, streams.send redirection.stream (.file target))
        | .error .isDirectory => .error ("cannot create " ++ target ++ ": Is a directory")
        | .error _ => .error ("cannot create " ++ target ++ ": Directory nonexistent")

/-- Open the targets of all redirections. -/
def redirectAll : List Redirection -> State -> Streams -> Except String (State × Streams)
  | [], state, streams => .ok (state, streams)
  | redirection :: rest, state, streams => do
      let (state, streams) <- redirect state streams redirection
      redirectAll rest state streams

/-! ## Commands -/

/-- The signal of a name or a number. -/
def signal? (name : String) : Option Nat :=
  match name.toNat? with
  | some number => some number
  | none =>
      (Command.signalNames.findIdx? (fun known => known == name || known == "SIG" ++ name)).map
        (fun index => index + 1)

/-- The signals that do not end a process that has made no arrangement for them. -/
def harmlessSignals : List Nat := [0, 17, 18, 23, 28]

/-- Send the process that reads the line a signal. -/
def killOf (arguments : List String) : Option Nat :=
  match arguments with
  | [process] => if process = processNumber then some 15 else none
  | ["-s", name, process] => if process = processNumber then signal? name else none
  | [name, process] =>
      if process = processNumber && name.startsWith "-" then
        signal? (String.ofList (name.toList.drop 1))
      else none
  | _ => none

/-- Run a tool with its streams sent where they go. -/
def runTool (tool : Tool) (arguments : List String) (streams : Streams) (state : State) : State :=
  let left := tool ⟨arguments, streams.input.getD state.input, state.files⟩
  let input := if streams.input.isSome then state.input else left.input
  let ended := { state with files := left.files, input, status := left.status }
  (ended.deliver streams.output left.output).deliver streams.errors (octets left.errors)

/-- Run the words of a command. -/
def runWords (words : List String) (streams : Streams) (state : State) : State × Option Stop :=
  match words with
  | [] => ({ state with status := 0 }, none)
  | "exit" :: arguments =>
      let code := ((arguments.head?.bind String.toNat?).getD state.status) % 256
      (state, some (.exit code))
  | "kill" :: arguments =>
      match killOf arguments with
      | none => ({ state with status := 1 }, none)
      | some signal =>
          if harmlessSignals.contains signal then ({ state with status := 0 }, none)
          else (state, some (.kill signal))
  | name :: arguments =>
      match tool? true name with
      | some tool => (runTool tool arguments streams state, none)
      | none =>
          let missing := { state with status := 127 }
          (missing.deliver streams.errors (shellComplaint (name ++ ": not found")), none)

/-- Run a simple command. -/
def runSimple (command : Simple) (state : State) : State × Option Stop :=
  match redirectAll command.redirections state {} with
  | .error text =>
      ({ state with status := 2, errors := state.errors ++ shellComplaint text }, none)
  | .ok (opened, streams) =>
      runWords (command.words.map (expandWord state.status)) streams opened

/-- Run the commands of a pipeline, each of which reads what the one before it wrote.
What the first one does not read is lost to the commands after the pipeline. -/
def runStages : List Simple -> State -> State × Option Stop
  | [], state => (state, none)
  | [last], state =>
      match runSimple last state with
      | (ended, some (.exit code)) => ({ ended with status := code }, none)
      | ended => ended
  | command :: rest, state =>
      match runSimple command { state with output := [] } with
      | (ended, some (.kill signal)) => (ended, some (.kill signal))
      | (ended, _) => runStages rest { ended with input := ended.output, output := state.output }

/-- Run a pipeline. -/
def runPipeline (pipeline : List Simple) (state : State) : State × Option Stop :=
  match pipeline with
  | [command] => runSimple command state
  | commands =>
      let (ended, stop) := runStages commands state
      ({ ended with input := [] }, stop)

/-- Whether a step runs. -/
def Condition.holds (condition : Condition) (status : Nat) : Bool :=
  match condition with
  | .always => true
  | .afterSuccess => status == 0
  | .afterFailure => status != 0

/-- Run the steps of a line. -/
def runSteps : List Step -> State -> State × Command.Status
  | [], state => (state, .exited state.status)
  | step :: rest, state =>
      if step.condition.holds state.status then
        match runPipeline step.pipeline state with
        | (ended, none) => runSteps rest ended
        | (ended, some (.exit code)) => (ended, .exited code)
        | (ended, some (.kill signal)) => (ended, .killed signal)
      else runSteps rest state

/-- Run a command line. -/
def runLine (line : String) (input : List UInt8) (files : Files.Tree) :
    Command.Output × Files.Tree :=
  match parse? line with
  | none => (⟨.exited 2, [], shellComplaint "Syntax error"⟩, files)
  | some steps =>
      let (ended, status) := runSteps steps { files, input }
      (⟨status, ended.output, ended.errors⟩, ended.files)

/-! ## Programs -/

/-- The name under which a program is known: programs are kept in two directories. -/
def programName (program : String) : String :=
  let name := (program.toList.reverse.takeWhile (fun character => character != '/')).reverse
  let directory := program.toList.take (program.toList.length - name.length)
  if directory = "/bin/".toList || directory = "/usr/bin/".toList then String.ofList name
  else program

/-- Run a program. -/
def execute (files : Files.Tree) (invocation : Command.Invocation) :
    Except Command.Fault Command.Output × Files.Tree :=
  let input := octets (invocation.input.getD "")
  let name := programName invocation.program
  if (invocation.program :: invocation.arguments).any
      (fun word => word.toList.contains '\x00') then
    (.error (.io (.unfit "nul byte found in provided data")), files)
  else
    match name, invocation.arguments with
    | "sh", "-c" :: line :: _ =>
        let (output, changed) := runLine line input files
        (.ok output, changed)
    | "sh", _ =>
        let (output, changed) := runLine ((Text.decodeLossy input)) [] files
        (.ok output, changed)
    | _, arguments =>
        match tool? false name with
        | some tool =>
            let left := tool ⟨arguments, input, files⟩
            (.ok ⟨.exited left.status, left.output, octets left.errors⟩, left.files)
        | none =>
            if name.toList.contains '/' && files.isThere name then
              (.error (.io .notPermitted), files)
            else (.error (.io .notFound), files)

end Shell
end OpenApiTypes
