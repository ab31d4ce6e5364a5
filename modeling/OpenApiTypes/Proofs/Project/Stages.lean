import OpenApiTypes.Proofs.Modules.Closure
import OpenApiTypes.Proofs.Project.Course
import OpenApiTypes.Proofs.Reading.Agreement

namespace OpenApiTypes
namespace Project

/-!
# The stages of a run

A run prepares its modules and then installs them.  Preparing runs the hook before and
the formatter and does nothing else, so a run that fails there leaves the files as its
commands left them.  Installing makes the output directory, cleans it when that is asked
for, writes the modules, and only then runs the hook after.
-/

/-! ## The expected events -/

/-- The commands that run a program with its arguments, one for each input. -/
def invocations (program : Option (String × List String)) (inputs : List (Option String)) :
    List Command.Invocation :=
  match program with
  | none => []
  | some (program, arguments) => inputs.map (Command.Invocation.mk program arguments)

/-- The commands of a hook. -/
def hookCommands (hook : Option (List String)) : List Command.Invocation :=
  invocations (hook.bind Command.split?) [none]

/-- The commands of a formatter: one for each body, which it is given to read. -/
def formatterCommands (formatter : Option (List String)) (bodies : List Modules.Body) :
    List Command.Invocation :=
  invocations (formatter.bind Command.split?) (bodies.map (fun body => some body.text))

/-- The commands before the output directory is touched. -/
def preparation (config : Config) (bodies : List Modules.Body) : List Command.Invocation :=
  hookCommands config.hooks.before ++ formatterCommands config.formatter bodies

/-- What happens to the output directory. -/
def installation (config : Config) (directory : String) (modules : List Module) : List Event :=
  [.directories directory] ++ (if config.cleansOutput then [.cleaned directory] else []) ++
    modules.map (fun entry => .wrote (Files.join directory entry.kind.fileName) entry.text)

theorem commandsOf_installation (config : Config) (directory : String)
    (modules : List Module) : commandsOf (installation config directory modules) = [] := by
  rw [commandsOf, List.filterMap_eq_nil_iff]
  intro event member
  simp only [installation, List.mem_append, List.mem_singleton, List.mem_map] at member
  rcases member with (rfl | cleaned) | ⟨entry, _, rfl⟩
  · rfl
  · split at cleaned
    · rw [List.mem_singleton.mp cleaned]
    · cases cleaned
  · rfl

/-- Everything that happens in a run, up to its end. -/
def wholeCourse (config : Config) (bodies : List Modules.Body) (directory : String)
    (modules : List Module) : List Event :=
  (preparation config bodies).map Event.command ++
    (installation config directory modules ++ (hookCommands config.hooks.after).map Event.command)

theorem commandsOf_wholeCourse (config : Config) (bodies : List Modules.Body)
    (directory : String) (modules : List Module) :
    commandsOf (wholeCourse config bodies directory modules) =
      preparation config bodies ++ hookCommands config.hooks.after := by
  rw [wholeCourse, commandsOf_append, commandsOf_append, commandsOf_installation,
    commandsOf_map_command, commandsOf_map_command, List.nil_append]

/-! ## The two stages -/

/-- A run up to the point where the output directory is touched. -/
def prepare (executor : Executor) (config : Config) : Session (String × List Module) := do
  let directory <- Session.ofExcept (expect .noOutput config.output)
  runHook? executor "before" config.hooks.before
  let modules <- compile executor config
  pure (directory, modules)

/-- Clean the output directory when that is asked for. -/
def cleanWhenAsked (config : Config) (directory : String) : Session Unit :=
  if config.cleansOutput then Session.change (fun files => files.clean directory) else pure ()

/-- A run from the point on where the output directory is touched. -/
def install (executor : Executor) (config : Config) (directory : String)
    (modules : List Module) : Session (List String) := do
  Session.changeBySteps (fun files => files.makeDirectories directory)
  cleanWhenAsked config directory
  let written <- writeModules directory modules
  runHook? executor "after" config.hooks.after
  pure written

theorem run_eq (executor : Executor) (config : Config) :
    run executor config = (do
      let (directory, modules) <- prepare executor config
      install executor config directory modules) := by
  simp only [run, prepare, install, cleanWhenAsked, bind_assoc, pure_bind]
  -- What follows the cleaning is written once in the run and stands in both branches.
  cases config.cleansOutput <;> simp

/-! ## Commands -/

theorem outcome_perform_bind {Result : Type} (executor : Executor)
    (invocation : Command.Invocation)
    (next : Except Command.Fault Command.Output -> Session Result) (start : World) :
    ((liftM (perform executor invocation) : Session _) >>= next).outcome start =
      (next (executor start invocation).1).outcome
        ⟨(executor start invocation).2, start.history ++ [invocation]⟩ :=
  rfl

/-- A hook runs its command, if it has one. -/
theorem performs_runHook? (executor : Executor) (name : String) (hook : Option (List String))
    (start : World) :
    Performs executor start (runHook? executor name hook)
      ((hookCommands hook).map Event.command) := by
  cases hook with
  | none => exact .of_still rfl
  | some command =>
      rw [hookCommands, runHook?, Option.bind_some]
      cases found : Command.split? command with
      | none =>
          have refused : (Session.ofExcept (splitCommand command)).outcome start =
              (.error .emptyCommand, start) := by
            rw [Session.outcome_ofExcept, splitCommand, found]
          exact .of_stopped _ (Session.outcome_bind_of_error _ refused)
      | some split =>
          rcases split with ⟨program, arguments⟩
          have ready : (Session.ofExcept (splitCommand command)).outcome start =
              (.ok (program, arguments), start) := by
            rw [Session.outcome_ofExcept, splitCommand, found]
          apply Performs.of_step
          rw [runHook, Session.outcome_bind_of_ok _ ready]
          dsimp only
          rw [outcome_perform_bind]
          -- However the command ends, it has been run by then.
          cases (executor start ⟨program, arguments, none⟩).1 with
          | error fault => exact .command start _
          | ok output =>
              dsimp only
              split <;> exact .command start _

theorem outcome_runHook?_none {hook : Option (List String)} (absent : hook = none)
    (executor : Executor) (name : String) (start : World) :
    (runHook? executor name hook).outcome start = (.ok (), start) := by
  rw [absent]
  rfl

theorem performs_format (executor : Executor) (formatter : Option (String × List String))
    (source : String) (start : World) :
    Performs executor start (format executor formatter source)
      ((invocations formatter [some source]).map Event.command) := by
  cases formatter with
  | none => exact .of_still rfl
  | some program => exact .of_step (.command start _)

/-! ## Preparing -/

private theorem bind_split?_of_mapM {command : Option (List String)}
    {program : Option (String × List String)}
    (done : command.mapM splitCommand = .ok program) :
    command.bind Command.split? = program := by
  cases command with
  | none =>
      cases done
      rfl
  | some words =>
      change (splitCommand words >>= fun split => pure (some split)) = _ at done
      rcases Reading.exists_of_bind_eq_ok done with ⟨split, found, same⟩
      cases same
      rw [Option.bind_some]
      unfold splitCommand at found
      cases cut : Command.split? words with
      | none =>
          rw [cut] at found
          cases found
      | some other =>
          rw [cut] at found
          cases found
          rfl

/-- A plan holds the configured formatter, and bodies in the order of generation. -/
theorem plan_spec {config : Config} {files : Files.Tree} {made : Plan}
    (done : plan config files = .ok made) :
    made.formatter = config.formatter.bind Command.split? ∧
      (made.bodies.map Modules.Body.kind).Sublist ModuleKind.all := by
  rcases Reading.exists_of_bind_eq_ok done with ⟨document, _, done⟩
  rcases Reading.exists_of_bind_eq_ok done with ⟨renderer, _, done⟩
  rcases Reading.exists_of_bind_eq_ok done with ⟨formatter, configured, done⟩
  rcases Reading.exists_of_bind_eq_ok done with ⟨bodies, generated, same⟩
  cases same
  refine ⟨(bind_split?_of_mapM configured).symm, ?_⟩
  cases bodiesMade : Modules.bodies config.settings renderer document with
  | error failure =>
      rw [bodiesMade] at generated
      cases generated
  | ok all =>
      rw [bodiesMade] at generated
      cases generated
      exact Modules.kinds_sublist_of_bodies bodiesMade

/-- Formatting runs the formatter once for each body, in their order. -/
theorem performs_formatBodies (executor : Executor) (settings : Settings)
    (formatter : Option (String × List String)) (bodies : List Modules.Body) (start : World) :
    Performs executor start (Modules.formatBodies settings (format executor formatter) bodies)
      ((invocations formatter (bodies.map (fun body => some body.text))).map Event.command) := by
  have inRow : (invocations formatter (bodies.map (fun body => some body.text))).map
      Event.command = bodies.flatMap (fun body =>
        (invocations formatter [some body.text]).map Event.command) := by
    cases formatter with
    | none => simp [invocations]
    | some program =>
        simp only [invocations, List.map_map, List.map_singleton]
        exact List.map_eq_flatMap ..
  rw [inRow]
  apply Performs.mapM
  intro body world
  exact (performs_format executor formatter body.text world).bind_pure
    (fun formatted => body.finish settings formatted)

theorem kinds_of_formatBodies {executor : Executor} {settings : Settings}
    {formatter : Option (String × List String)} {bodies : List Modules.Body}
    {start final : World} {modules : List Module}
    (done : (Modules.formatBodies settings (format executor formatter) bodies).outcome start =
      (.ok modules, final)) :
    modules.map Module.kind = bodies.map Modules.Body.kind := by
  unfold Modules.formatBodies at done
  induction bodies generalizing start modules with
  | nil =>
      cases done
      rfl
  | cons body rest inductionHypothesis =>
      rw [List.mapM_cons, Session.outcome_bind_eq_ok_iff] at done
      rcases done with ⟨first, between, one, others⟩
      rw [Session.outcome_bind_eq_ok_iff] at one others
      rcases one with ⟨formatted, _, _, finished⟩
      rcases others with ⟨later, _, rest, all⟩
      cases finished
      cases all
      rw [List.map_cons, List.map_cons, inductionHypothesis rest]
      rfl

theorem compile_of_planned {executor : Executor} {config : Config} {start : World} {made : Plan}
    (planned : plan config start.files = .ok made) :
    (compile executor config).outcome start =
      (Modules.formatBodies config.settings (format executor made.formatter)
        made.bodies).outcome start := by
  apply Session.outcome_bind_of_ok
  rw [Session.outcome_view, planned]

/-- Without a plan, compiling fails before it runs anything. -/
theorem compile_of_not_planned {executor : Executor} {config : Config} {start : World}
    {failure : RunFailure} (failed : plan config start.files = .error failure) :
    (compile executor config).outcome start = (.error failure, start) := by
  apply Session.outcome_bind_of_error
  rw [Session.outcome_view, failed]

/-- The bodies that are made from files; none when there is no plan. -/
def bodiesFrom (config : Config) (files : Files.Tree) : List Modules.Body :=
  match plan config files with
  | .error _ => []
  | .ok made => made.bodies

theorem kinds_bodiesFrom (config : Config) (files : Files.Tree) :
    ((bodiesFrom config files).map Modules.Body.kind).Sublist ModuleKind.all := by
  unfold bodiesFrom
  split
  · exact List.nil_sublist _
  · next made planned => exact (plan_spec planned).2

/-- Compiling runs the formatter for the bodies that are made, and does nothing else. -/
theorem performs_compile (executor : Executor) (config : Config) (start : World) :
    Performs executor start (compile executor config)
      ((formatterCommands config.formatter (bodiesFrom config start.files)).map
        Event.command) := by
  unfold bodiesFrom
  cases planned : plan config start.files with
  | error failure => exact .of_stopped _ (compile_of_not_planned planned)
  | ok made =>
      dsimp only
      rw [formatterCommands, ← (plan_spec planned).1, Performs, compile_of_planned planned]
      exact performs_formatBodies executor config.settings made.formatter made.bodies start

theorem kinds_of_compile {executor : Executor} {config : Config} {start final : World}
    {modules : List Module}
    (done : (compile executor config).outcome start = (.ok modules, final)) :
    (modules.map Module.kind).Sublist ModuleKind.all := by
  cases planned : plan config start.files with
  | error failure =>
      rw [compile_of_not_planned planned] at done
      cases done
  | ok made =>
      rw [compile_of_planned planned] at done
      rw [kinds_of_formatBodies done]
      exact (plan_spec planned).2

/-- The bodies that a run makes: those from the files after the hook before.  There are
none when that hook fails. -/
def plannedBodies (executor : Executor) (config : Config) (start : World) :
    List Modules.Body :=
  match (runHook? executor "before" config.hooks.before).outcome start with
  | (.error _, _) => []
  | (.ok (), ready) => bodiesFrom config ready.files

theorem kinds_plannedBodies (executor : Executor) (config : Config) (start : World) :
    ((plannedBodies executor config start).map Modules.Body.kind).Sublist ModuleKind.all := by
  unfold plannedBodies
  split
  · exact List.nil_sublist _
  · exact kinds_bodiesFrom config _

/-- Preparing runs the hook before and then the formatter, and does nothing else. -/
theorem performs_prepare (executor : Executor) (config : Config) (start : World) :
    Performs executor start (prepare executor config)
      ((preparation config (plannedBodies executor config start)).map Event.command) := by
  rw [preparation, List.map_append, prepare]
  refine Performs.of_still_bind rfl (fun directory _ => ?_)
  refine (performs_runHook? executor "before" config.hooks.before start).bind
    (fun _ ready hooked => ?_)
  have bodies : plannedBodies executor config start = bodiesFrom config ready.files := by
    rw [plannedBodies, hooked]
  rw [bodies]
  exact (performs_compile executor config ready).bind_pure (fun modules => (directory, modules))

/-! ## Installing -/

theorem performs_cleanWhenAsked (executor : Executor) (config : Config) (directory : String)
    (start : World) :
    Performs executor start (cleanWhenAsked config directory)
      (if config.cleansOutput then [.cleaned directory] else []) := by
  unfold cleanWhenAsked
  split
  · cases done : start.files.clean directory with
    | error problem => exact .of_stopped _ (Session.outcome_change_of_error done)
    | ok files =>
        apply Performs.of_step
        rw [Session.outcome_change_of_ok done]
        exact .cleaned done
  · exact .of_still rfl

theorem performs_write (executor : Executor) (path text : String) (start : World) :
    Performs executor start (Session.change (fun files => files.writeText path text))
      [.wrote path text] := by
  cases done : start.files.writeText path text with
  | error problem => exact .of_stopped _ (Session.outcome_change_of_error done)
  | ok files =>
      apply Performs.of_step
      rw [Session.outcome_change_of_ok done]
      exact .wrote done

theorem performs_writeModules (executor : Executor) (directory : String)
    (modules : List Module) (start : World) :
    Performs executor start (writeModules directory modules)
      (modules.map (fun entry =>
        .wrote (Files.join directory entry.kind.fileName) entry.text)) := by
  rw [List.map_eq_flatMap]
  refine Performs.mapM (fun entry world => ?_) modules start
  exact (performs_write executor _ entry.text world).bind_pure (fun _ => _)

/-- Installing asks for the output directory whatever comes of it, and runs the hook after
at its end. -/
theorem install_course (executor : Executor) (config : Config) (directory : String)
    (modules : List Module) (start : World) :
    Exists fun events : List Event =>
      Course executor start events ((install executor config directory modules).outcome start).2 ∧
      [.directories directory] <+: events ∧
      events <+: installation config directory modules ++
        (hookCommands config.hooks.after).map Event.command ∧
      ∀ written, ((install executor config directory modules).outcome start).1 = .ok written ->
        events = installation config directory modules ++
          (hookCommands config.hooks.after).map Event.command := by
  have cleaning (world : World) := performs_cleanWhenAsked executor config directory world
  have writing (world : World) := performs_writeModules executor directory modules world
  have hook (world : World) (written : List String) :=
    (performs_runHook? executor "after" config.hooks.after world).bind_pure (fun _ => written)
  have filling (world : World) := (cleaning world).bind (fun _ cleaned _ =>
    (writing cleaned).bind (fun written final _ => hook final written))
  have asked : Step executor start (.directories directory) ((Session.changeBySteps
      (fun files => files.makeDirectories directory)).outcome start).2 :=
    .directories start directory
  rcases Performs.of_step_bind asked (fun _ made _ => filling made) with
    ⟨events, course, beginning, whole⟩
  rw [installation, List.append_assoc, List.append_assoc]
  refine ⟨[.directories directory] ++ events, course, List.prefix_append .., ?_, ?_⟩
  · exact (List.prefix_append_right_inj _).mpr beginning
  · intro written finished
    rw [whole written finished]

/-! ## The course of a run -/

/-- The failures of a run before its output directory is touched. -/
inductive FailsEarly (executor : Executor) (config : Config) (start : World) :
    RunFailure -> World -> Prop where
  /-- There is no output directory. -/
  | noOutput (missing : config.output = none) :
      FailsEarly executor config start .noOutput start
  /-- The hook before is empty, cannot be run, or does not end well. -/
  | hookFailed {directory : String} {failure : RunFailure} {stopped : World}
      (given : config.output = some directory)
      (failed : (runHook? executor "before" config.hooks.before).outcome start =
        (.error failure, stopped)) :
      FailsEarly executor config start failure stopped
  /-- The bodies cannot be made: the document is missing, unreadable or no document, a
  template or the settings are refused, the formatter is empty, or an endpoint cannot be
  rendered. -/
  | notPlanned {directory : String} {failure : RunFailure} {ready : World}
      (given : config.output = some directory)
      (hooked : (runHook? executor "before" config.hooks.before).outcome start = (.ok (), ready))
      (failed : plan config ready.files = .error failure) :
      FailsEarly executor config start failure ready
  /-- The formatter fails at one of the bodies. -/
  | notFormatted {directory : String} {failure : RunFailure} {ready stopped : World}
      {made : Plan} (given : config.output = some directory)
      (hooked : (runHook? executor "before" config.hooks.before).outcome start = (.ok (), ready))
      (planned : plan config ready.files = .ok made)
      (failed : (Modules.formatBodies config.settings (format executor made.formatter)
        made.bodies).outcome ready = (.error failure, stopped)) :
      FailsEarly executor config start failure stopped

variable {executor : Executor} {config : Config} {start : World}

theorem outcome_expect_output {directory : String} (given : config.output = some directory) :
    (Session.ofExcept (expect .noOutput config.output)).outcome start =
      (.ok directory, start) := by
  rw [given]
  rfl

/-- After the hook before, preparing is compiling. -/
theorem prepare_of_hooked {directory : String} {ready : World}
    (given : config.output = some directory)
    (hooked : (runHook? executor "before" config.hooks.before).outcome start = (.ok (), ready)) :
    (prepare executor config).outcome start =
      (do
        let modules <- compile executor config
        pure (directory, modules) : Session _).outcome ready := by
  rw [prepare, Session.outcome_bind_of_ok _ (outcome_expect_output given),
    Session.outcome_bind_of_ok _ hooked]

/-- The modules that a run installs are those that it compiles after the hook before. -/
theorem prepare_eq_ok_iff (executor : Executor) (config : Config) (start ready : World)
    (directory : String) (modules : List Module) :
    (prepare executor config).outcome start = (.ok (directory, modules), ready) ↔
      config.output = some directory ∧
        Exists fun hooked : World =>
          (runHook? executor "before" config.hooks.before).outcome start = (.ok (), hooked) ∧
            (compile executor config).outcome hooked = (.ok modules, ready) := by
  constructor
  · intro done
    rcases (Session.outcome_bind_eq_ok_iff ..).mp done with ⟨_, _, expected, done⟩
    rcases (Session.outcome_bind_eq_ok_iff ..).mp done with ⟨_, hooked, hook, done⟩
    rcases (Session.outcome_bind_eq_ok_iff ..).mp done with ⟨_, _, compiled, done⟩
    cases done
    rw [Session.outcome_ofExcept, Prod.mk.injEq] at expected
    rcases expected with ⟨given, rfl⟩
    refine ⟨?_, hooked, hook, compiled⟩
    cases output : config.output with
    | none =>
        rw [output] at given
        cases given
    | some directory =>
        rw [output] at given
        cases given
        rfl
  · rintro ⟨given, hooked, hook, compiled⟩
    rw [prepare_of_hooked given hook]
    exact Session.outcome_bind_of_ok _ compiled

/-- The early failures are those of preparing. -/
theorem prepare_of_failsEarly {failure : RunFailure} {stopped : World}
    (early : FailsEarly executor config start failure stopped) :
    (prepare executor config).outcome start = (.error failure, stopped) := by
  cases early with
  | noOutput missing =>
      apply Session.outcome_bind_of_error
      rw [missing]
      rfl
  | hookFailed given failed =>
      rw [prepare, Session.outcome_bind_of_ok _ (outcome_expect_output given)]
      exact Session.outcome_bind_of_error _ failed
  | notPlanned given hooked failed =>
      rw [prepare_of_hooked given hooked]
      exact Session.outcome_bind_of_error _ (compile_of_not_planned failed)
  | notFormatted given hooked planned failed =>
      rw [prepare_of_hooked given hooked]
      apply Session.outcome_bind_of_error
      rw [compile_of_planned planned]
      exact failed

/-- A run that does not fail early has modules to install, one for each body. -/
theorem prepare_of_not_failsEarly
    (late : ∀ failure stopped, ¬ FailsEarly executor config start failure stopped) :
    Exists fun directory : String => Exists fun modules : List Module =>
      Exists fun ready : World =>
        (prepare executor config).outcome start = (.ok (directory, modules), ready) ∧
          config.output = some directory ∧
          modules.map Module.kind =
            (plannedBodies executor config start).map Modules.Body.kind := by
  cases given : config.output with
  | none => exact absurd (.noOutput given) (late _ _)
  | some directory =>
      rcases hooked : (runHook? executor "before" config.hooks.before).outcome start with
        ⟨answer, ready⟩
      cases answer with
      | error failure => exact absurd (.hookFailed given hooked) (late _ _)
      | ok done =>
          cases planned : plan config ready.files with
          | error failure => exact absurd (.notPlanned given hooked planned) (late _ _)
          | ok made =>
              rcases formatted : (Modules.formatBodies config.settings
                (format executor made.formatter) made.bodies).outcome ready with ⟨answer, final⟩
              cases answer with
              | error failure =>
                  exact absurd (.notFormatted given hooked planned formatted) (late _ _)
              | ok modules =>
                  have bodies : plannedBodies executor config start = made.bodies := by
                    simp only [plannedBodies, bodiesFrom, hooked, planned]
                  refine ⟨directory, modules, final, ?_, rfl, ?_⟩
                  · rw [← compile_of_planned planned] at formatted
                    exact (prepare_eq_ok_iff ..).mpr ⟨given, ready, hooked, formatted⟩
                  · rw [bodies]
                    exact kinds_of_formatBodies formatted

/-- When preparing succeeds, the run asks for the output directory and goes on from there. -/
theorem course_of_prepared {directory : String} {modules : List Module} {ready : World}
    (prepared : (prepare executor config).outcome start = (.ok (directory, modules), ready)) :
    Exists fun events : List Event =>
      Course executor start events ((run executor config).outcome start).2 ∧
      (preparation config (plannedBodies executor config start)).map Event.command ++
        [.directories directory] <+: events ∧
      events <+: wholeCourse config (plannedBodies executor config start) directory modules ∧
      ∀ written, ((run executor config).outcome start).1 = .ok written ->
        events = wholeCourse config (plannedBodies executor config start) directory modules := by
  have ran : (run executor config).outcome start =
      (install executor config directory modules).outcome ready := by
    rw [run_eq, Session.outcome_bind_of_ok _ prepared]
  rcases performs_prepare executor config start with ⟨before, preparing, _, whole⟩
  rw [prepared] at preparing whole
  rw [whole _ rfl] at preparing
  rcases install_course executor config directory modules ready with
    ⟨installed, installing, reached, beginning, finished⟩
  rw [ran]
  refine ⟨_, preparing.append installing, ?_, ?_, ?_⟩
  · exact (List.prefix_append_right_inj _).mpr reached
  · exact (List.prefix_append_right_inj _).mpr beginning
  · intro written done
    rw [wholeCourse, finished written done]

/-- What happens in a run, whatever the executor does, is in this order: the hook before,
the formatter once for each body in the order of generation, the output directory, and
the hook after when every module has been written.  A run that fails before it touches
the output directory has done nothing besides running commands: it leaves the files as
they left them, and the hook after is not among them.  Every other run has prepared all its
modules by the time it asks for the output directory. -/
theorem run_course (executor : Executor) (config : Config) (start : World) :
    Exists fun events : List Event =>
      Course executor start events ((run executor config).outcome start).2 ∧
      ((run executor config).outcome start).2.history = start.history ++ commandsOf events ∧
      ((plannedBodies executor config start).map Modules.Body.kind).Sublist ModuleKind.all ∧
      commandsOf events <+:
        preparation config (plannedBodies executor config start) ++
          hookCommands config.hooks.after ∧
      (∀ failure stopped, FailsEarly executor config start failure stopped ->
        (run executor config).outcome start = (.error failure, stopped) ∧
        events = (commandsOf events).map Event.command ∧
        commandsOf events <+: preparation config (plannedBodies executor config start) ∧
        ((∀ invocation ∈ commandsOf events, ∀ world,
            (executor world invocation).2 = world.files) ->
          stopped.files = start.files)) ∧
      ((∀ failure stopped, ¬ FailsEarly executor config start failure stopped) ->
        Exists fun directory : String => Exists fun modules : List Module =>
          config.output = some directory ∧
          modules.map Module.kind =
            (plannedBodies executor config start).map Modules.Body.kind ∧
          (preparation config (plannedBodies executor config start)).map Event.command ++
            [.directories directory] <+: events ∧
          events <+:
            wholeCourse config (plannedBodies executor config start) directory modules ∧
          ∀ written, ((run executor config).outcome start).1 = .ok written ->
            events =
              wholeCourse config (plannedBodies executor config start) directory modules) := by
  by_cases late : ∀ failure stopped, ¬ FailsEarly executor config start failure stopped
  · rcases prepare_of_not_failsEarly late with
      ⟨directory, modules, ready, prepared, given, kinds⟩
    rcases course_of_prepared prepared with ⟨events, course, reached, beginning, whole⟩
    have commands := commandsOf_isPrefix beginning
    rw [commandsOf_wholeCourse] at commands
    refine ⟨events, course, course.history, kinds_plannedBodies executor config start, commands,
      ?_, fun _ => ⟨directory, modules, given, kinds, reached, beginning, whole⟩⟩
    intro failure stopped early
    exact absurd early (late failure stopped)
  · simp only [not_forall, not_not] at late
    rcases late with ⟨failure, stopped, early⟩
    have prepared := prepare_of_failsEarly early
    have ran : (run executor config).outcome start = (.error failure, stopped) := by
      rw [run_eq]
      exact Session.outcome_bind_of_error _ prepared
    rcases (performs_prepare executor config start).commands with
      ⟨commands, course, beginning, unchanged⟩
    rw [prepared] at course unchanged
    have only := commandsOf_map_command commands
    rw [ran]
    refine ⟨commands.map Event.command, course, course.history,
      kinds_plannedBodies executor config start, ?_, ?_, ?_⟩
    · rw [only]
      exact beginning.trans (List.prefix_append _ _)
    · intro otherFailure otherStopped otherEarly
      have same := (prepare_of_failsEarly otherEarly).symm.trans prepared
      cases same
      rw [only]
      exact ⟨rfl, rfl, beginning, unchanged⟩
    · intro late
      exact absurd early (late failure stopped)

end Project
end OpenApiTypes
