import OpenApiTypes.Project.Run
import Mathlib.Data.List.Basic

namespace OpenApiTypes
namespace Project

/-!
# What happens in a run, in its order

A session ends with a result and a world.  Its course is the list of what happened in
between: commands that were run, directories that were made, a directory that was
cleaned and files that were written.  An executor may do anything to the files when it
runs a command; every other step does to the files exactly what it is named for.  So two
things can be read off a course: which commands were run, and whether anything else
touched the files.
-/

/-! ## Steps -/

/-- What happens in a run besides reading. -/
inductive Event where
  | command (invocation : Command.Invocation)
  /-- Directories were asked for; when that failed, some of them may have been made. -/
  | directories (path : String)
  | cleaned (path : String)
  | wrote (path text : String)
deriving DecidableEq

/-- What an event does to the world. -/
inductive Step (executor : Executor) : World -> Event -> World -> Prop where
  | command (world : World) (invocation : Command.Invocation) :
      Step executor world (.command invocation)
        ⟨(executor world invocation).2, world.history ++ [invocation]⟩
  | directories (world : World) (path : String) :
      Step executor world (.directories path)
        { world with files := (world.files.makeDirectories path).2 }
  | cleaned {world : World} {path : String} {files : Files.Tree}
      (done : world.files.clean path = .ok files) :
      Step executor world (.cleaned path) { world with files := files }
  | wrote {world : World} {path text : String} {files : Files.Tree}
      (done : world.files.writeText path text = .ok files) :
      Step executor world (.wrote path text) { world with files := files }

/-- Events that happen one after the other. -/
inductive Course (executor : Executor) : World -> List Event -> World -> Prop where
  | nil (world : World) : Course executor world [] world
  | cons {start middle final : World} {event : Event} {events : List Event}
      (first : Step executor start event middle) (rest : Course executor middle events final) :
      Course executor start (event :: events) final

/-- The commands among events, in their order. -/
def commandsOf (events : List Event) : List Command.Invocation :=
  events.filterMap (fun event =>
    match event with
    | .command invocation => some invocation
    | _ => none)

@[simp] theorem commandsOf_map_command (commands : List Command.Invocation) :
    commandsOf (commands.map Event.command) = commands := by
  rw [commandsOf, List.filterMap_map]
  exact List.filterMap_some

@[simp] theorem commandsOf_append (first second : List Event) :
    commandsOf (first ++ second) = commandsOf first ++ commandsOf second :=
  List.filterMap_append

/-- A beginning of events has a beginning of their commands. -/
theorem commandsOf_isPrefix {first second : List Event} (beginning : first <+: second) :
    commandsOf first <+: commandsOf second :=
  beginning.filterMap _

namespace Course

variable {executor : Executor} {start middle final : World}

theorem single {event : Event} (step : Step executor start event final) :
    Course executor start [event] final :=
  .cons step (.nil final)

theorem append {first second : List Event} (before : Course executor start first middle)
    (after : Course executor middle second final) :
    Course executor start (first ++ second) final := by
  induction before with
  | nil => exact after
  | cons step _ inductionHypothesis => exact .cons step (inductionHypothesis after)

/-- The history of the world grows by the commands of the course. -/
theorem history {events : List Event} (course : Course executor start events final) :
    final.history = start.history ++ commandsOf events := by
  induction course with
  | nil => rw [commandsOf, List.filterMap_nil, List.append_nil]
  | cons step _ inductionHypothesis =>
      rw [inductionHypothesis]
      cases step with
      | command => simp [commandsOf]
      | directories => rfl
      | cleaned => rfl
      | wrote => rfl

/-- Commands that leave files alone leave them as they were. -/
theorem files_eq {commands : List Command.Invocation}
    (course : Course executor start (commands.map Event.command) final)
    (alone : ∀ invocation ∈ commands, ∀ world, (executor world invocation).2 = world.files) :
    final.files = start.files := by
  induction commands generalizing start with
  | nil =>
      cases course
      rfl
  | cons invocation rest inductionHypothesis =>
      rw [List.forall_mem_cons] at alone
      cases course with
      | cons step later =>
          cases step
          rw [inductionHypothesis later alone.2]
          exact alone.1 start

end Course

/-! ## Sessions -/

namespace Session

variable {Result Next : Type}

/-- The result of a session, and the world at its end. -/
def outcome (session : Session Result) (start : World) : Except RunFailure Result × World :=
  StateT.run (ExceptT.run session) start

@[simp] theorem outcome_pure (result : Result) (start : World) :
    (pure result : Session Result).outcome start = (.ok result, start) :=
  rfl

@[simp] theorem outcome_ofExcept (result : Except RunFailure Result) (start : World) :
    (ofExcept result).outcome start = (result, start) :=
  rfl

@[simp] theorem outcome_view (look : Files.Tree -> Except RunFailure Result) (start : World) :
    (view look).outcome start = (look start.files, start) :=
  rfl

theorem outcome_changeBySteps
    (operation : Files.Tree -> Except Files.Problem Unit × Files.Tree) (start : World) :
    (changeBySteps operation).outcome start =
      ((operation start.files).1.mapError RunFailure.io,
        { start with files := (operation start.files).2 }) :=
  rfl

theorem outcome_change_of_ok {operation : Files.Tree -> Except Files.Problem Files.Tree}
    {start : World} {changed : Files.Tree} (done : operation start.files = .ok changed) :
    (change operation).outcome start = (.ok (), { start with files := changed }) := by
  rw [change, outcome_changeBySteps, done]
  rfl

theorem outcome_change_of_error {operation : Files.Tree -> Except Files.Problem Files.Tree}
    {start : World} {problem : Files.Problem} (failed : operation start.files = .error problem) :
    (change operation).outcome start = (.error (.io problem), start) := by
  rw [change, outcome_changeBySteps, failed]
  rfl

section Bind

variable {session : Session Result} {start middle : World}

/-- After a session that succeeds, the next one starts where it ended. -/
theorem outcome_bind_of_ok {result : Result} (next : Result -> Session Next)
    (done : session.outcome start = (.ok result, middle)) :
    (session >>= next).outcome start = (next result).outcome middle := by
  change (match session.outcome start with
    | (answer, world) => (ExceptT.bindCont next answer).run world) = _
  rw [done]
  rfl

/-- After a session that fails, nothing else happens. -/
theorem outcome_bind_of_error {failure : RunFailure} (next : Result -> Session Next)
    (done : session.outcome start = (.error failure, middle)) :
    (session >>= next).outcome start = (.error failure, middle) := by
  change (match session.outcome start with
    | (answer, world) => (ExceptT.bindCont next answer).run world) = _
  rw [done]
  rfl

/-- Two sessions in a row succeed when both do. -/
theorem outcome_bind_eq_ok_iff (next : Result -> Session Next) (final : World) (value : Next) :
    (session >>= next).outcome start = (.ok value, final) ↔
      Exists fun result : Result => Exists fun between : World =>
        session.outcome start = (.ok result, between) ∧
          (next result).outcome between = (.ok value, final) := by
  rcases done : session.outcome start with ⟨answer, between⟩
  cases answer with
  | error failure =>
      rw [outcome_bind_of_error next done]
      simp
  | ok result =>
      rw [outcome_bind_of_ok next done]
      constructor
      · intro later
        exact ⟨result, between, rfl, later⟩
      · rintro ⟨_, _, same, later⟩
        cases same
        exact later

end Bind

end Session

/-! ## Sessions that follow a list of events -/

/-- What happens in a session is a beginning of the expected events, and it is all of them
when the session succeeds. -/
def Performs {Result : Type} (executor : Executor) (start : World) (session : Session Result)
    (expected : List Event) : Prop :=
  Exists fun events : List Event =>
    Course executor start events (session.outcome start).2 ∧ events <+: expected ∧
      ∀ result, (session.outcome start).1 = .ok result -> events = expected

namespace Performs

variable {Result Next : Type} {executor : Executor} {start : World}

theorem of_still {session : Session Result} (still : (session.outcome start).2 = start) :
    Performs executor start session [] := by
  refine ⟨[], ?_, List.prefix_refl [], fun _ _ => rfl⟩
  rw [still]
  exact .nil start

theorem of_step {session : Session Result} {event : Event}
    (step : Step executor start event (session.outcome start).2) :
    Performs executor start session [event] :=
  ⟨[event], .single step, List.prefix_refl _, fun _ _ => rfl⟩

/-- A session that fails before anything happens. -/
theorem of_stopped {session : Session Result} {failure : RunFailure} (expected : List Event)
    (stopped : session.outcome start = (.error failure, start)) :
    Performs executor start session expected := by
  refine ⟨[], ?_, List.nil_prefix, ?_⟩
  · rw [stopped]
    exact .nil start
  · intro result done
    rw [stopped] at done
    cases done

theorem bind {session : Session Result} {next : Result -> Session Next}
    {expected later : List Event} (first : Performs executor start session expected)
    (second : ∀ result middle, session.outcome start = (.ok result, middle) ->
      Performs executor middle (next result) later) :
    Performs executor start (session >>= next) (expected ++ later) := by
  rcases first with ⟨before, course, beginning, whole⟩
  rcases done : session.outcome start with ⟨answer, middle⟩
  rw [done] at course whole
  cases answer with
  | error failure =>
      rw [Performs, Session.outcome_bind_of_error next done]
      exact ⟨before, course, beginning.trans (List.prefix_append ..), nofun⟩
  | ok result =>
      rw [Performs, Session.outcome_bind_of_ok next done]
      rcases second result middle done with ⟨after, laterCourse, laterBeginning, laterWhole⟩
      have all := whole result rfl
      subst all
      refine ⟨before ++ after, course.append laterCourse, ?_, ?_⟩
      · exact (List.prefix_append_right_inj before).mpr laterBeginning
      · intro value finished
        rw [laterWhole value finished]

/-- A session that touches nothing comes before the events of the next one. -/
theorem of_still_bind {session : Session Result} {next : Result -> Session Next}
    {expected : List Event} (still : (session.outcome start).2 = start)
    (second : ∀ result, (session.outcome start).1 = .ok result ->
      Performs executor start (next result) expected) :
    Performs executor start (session >>= next) expected := by
  refine (of_still still).bind (fun result middle done => ?_)
  rw [done] at still second
  cases still
  exact second result rfl

/-- A session that begins with a step takes that step, also when it fails there. -/
theorem of_step_bind {session : Session Result} {next : Result -> Session Next} {event : Event}
    {later : List Event} (step : Step executor start event (session.outcome start).2)
    (second : ∀ result middle, session.outcome start = (.ok result, middle) ->
      Performs executor middle (next result) later) :
    Exists fun events : List Event =>
      Course executor start (event :: events) ((session >>= next).outcome start).2 ∧
        events <+: later ∧
        ∀ value, ((session >>= next).outcome start).1 = .ok value -> events = later := by
  rcases done : session.outcome start with ⟨answer, middle⟩
  rw [done] at step
  cases answer with
  | error failure =>
      rw [Session.outcome_bind_of_error next done]
      exact ⟨[], .single step, List.nil_prefix, nofun⟩
  | ok result =>
      rw [Session.outcome_bind_of_ok next done]
      rcases second result middle done with ⟨events, course, beginning, whole⟩
      exact ⟨events, .cons step course, beginning, whole⟩

theorem bind_pure {session : Session Result} {expected : List Event}
    (first : Performs executor start session expected) (finish : Result -> Next) :
    Performs executor start (session >>= fun result => pure (finish result)) expected := by
  rw [← List.append_nil expected]
  exact first.bind (fun _ _ _ => of_still rfl)

/-- A session that is expected to run commands runs a beginning of them, and does nothing to
the files that they do not do. -/
theorem commands {session : Session Result} {commands : List Command.Invocation}
    (performs : Performs executor start session (commands.map Event.command)) :
    Exists fun ran : List Command.Invocation =>
      Course executor start (ran.map Event.command) (session.outcome start).2 ∧
        ran <+: commands ∧
        ((∀ invocation ∈ ran, ∀ world, (executor world invocation).2 = world.files) ->
          (session.outcome start).2.files = start.files) := by
  rcases performs with ⟨events, course, beginning, _⟩
  rcases List.prefix_map_iff.mp beginning with ⟨ran, first, rfl⟩
  exact ⟨ran, course, first, fun alone => course.files_eq alone⟩

/-- Commands that leave files alone leave them as they were, wherever the session stops. -/
theorem files_eq {session : Session Result} {commands : List Command.Invocation}
    (performs : Performs executor start session (commands.map Event.command))
    (alone : ∀ invocation ∈ commands, ∀ world, (executor world invocation).2 = world.files) :
    (session.outcome start).2.files = start.files := by
  rcases performs.commands with ⟨ran, _, beginning, unchanged⟩
  exact unchanged (fun invocation member => alone invocation (beginning.mem member))

/-- Steps over a list perform the events of its items. -/
theorem mapM {Item : Type} {step : Item -> Session Result} {events : Item -> List Event}
    (each : ∀ item world, Performs executor world (step item) (events item))
    (items : List Item) (start : World) :
    Performs executor start (items.mapM step) (items.flatMap events) := by
  induction items generalizing start with
  | nil =>
      rw [List.mapM_nil, List.flatMap_nil]
      exact of_still rfl
  | cons item rest inductionHypothesis =>
      rw [List.mapM_cons, List.flatMap_cons]
      refine (each item start).bind (fun result middle _ => ?_)
      exact (inductionHypothesis middle).bind_pure (fun results => result :: results)

end Performs

end Project
end OpenApiTypes
