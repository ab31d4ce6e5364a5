import OpenApiTypes.Proofs.Files.Unobstructed
import OpenApiTypes.Proofs.Project.Output
import OpenApiTypes.Proofs.Text.Utf8

namespace OpenApiTypes
namespace Project

/-!
# What a dry run says about the run

A dry run compiles and stops.  When commands answer the same question always in the same
way, what is compiled depends on nothing but the configuration and the files.  So a run
from the same files compiles the same modules or fails in the same way, and the files
that it writes have the names and the sizes that the dry run showed.
-/

/-! ## Results that do not depend on the world -/

namespace Session

variable {Result Next : Type}

/-- Whether a session has the same result wherever it starts. -/
def Steady (session : Session Result) : Prop :=
  ∀ first second, (session.outcome first).1 = (session.outcome second).1

namespace Steady

theorem pure (result : Result) : Steady (pure result) :=
  fun _ _ => rfl

theorem bind {session : Session Result} {next : Result -> Session Next}
    (steady : session.Steady) (later : ∀ result, (next result).Steady) :
    (session >>= next).Steady := by
  intro first second
  have same := steady first second
  rcases one : session.outcome first with ⟨answer, middle⟩
  rcases other : session.outcome second with ⟨otherAnswer, otherMiddle⟩
  rw [one, other] at same
  cases same
  cases answer with
  | error failure => rw [outcome_bind_of_error next one, outcome_bind_of_error next other]
  | ok result =>
      rw [outcome_bind_of_ok next one, outcome_bind_of_ok next other]
      exact later result middle otherMiddle

theorem mapM {Item : Type} {step : Item -> Session Result}
    (each : ∀ item, (step item).Steady) (items : List Item) : (items.mapM step).Steady := by
  induction items with
  | nil =>
      rw [List.mapM_nil]
      exact pure []
  | cons item rest inductionHypothesis =>
      rw [List.mapM_cons]
      exact (each item).bind (fun _ => inductionHypothesis.bind (fun _ => pure _))

end Steady
end Session

/-- Whether a command is always answered in the same way.  What it does to files may
still depend on anything. -/
def AnswersAlike (executor : Executor) : Prop :=
  ∀ first second invocation, (executor first invocation).1 = (executor second invocation).1

section Compiling

variable {executor : Executor} (alike : AnswersAlike executor)
include alike

theorem steady_format (formatter : Option (String × List String)) (source : String) :
    (format executor formatter source).Steady := by
  cases formatter with
  | none => exact .pure _
  | some program =>
      rcases program with ⟨program, arguments⟩
      intro first second
      change (formatted program (executor first ⟨program, arguments, some source⟩).1).mapError _ =
        (formatted program (executor second ⟨program, arguments, some source⟩).1).mapError _
      rw [alike first second]

theorem steady_formatBodies (settings : Settings) (formatter : Option (String × List String))
    (bodies : List Modules.Body) :
    (Modules.formatBodies settings (format executor formatter) bodies).Steady := by
  unfold Modules.formatBodies
  refine Session.Steady.mapM (fun body => ?_) bodies
  refine (steady_format alike formatter body.text).bind (fun formatted => ?_)
  exact .pure (body.finish settings formatted)

/-- What is compiled depends on the files only. -/
theorem compile_of_files_eq (config : Config) {first second : World}
    (same : first.files = second.files) :
    ((compile executor config).outcome first).1 = ((compile executor config).outcome second).1 := by
  cases planned : plan config first.files with
  | error failure =>
      have otherPlanned := planned
      rw [same] at otherPlanned
      rw [compile_of_not_planned planned, compile_of_not_planned otherPlanned]
  | ok made =>
      have otherPlanned := planned
      rw [same] at otherPlanned
      rw [compile_of_planned planned, compile_of_planned otherPlanned]
      exact steady_formatBodies alike config.settings made.formatter made.bodies first second

end Compiling

/-! ## The dry run -/

/-- A line that shows the name of the file at a path with the number of its octets. -/
def Announces (files : Files.Tree) (line path : String) : Prop :=
  Exists fun name : String => Exists fun content : List UInt8 =>
    (Files.parts path).getLast? = some name ∧ files.at? path = .ok (.file content) ∧
      line = Text.padRight 12 name ++ " " ++ Text.padLeft 8 (toString content.length) ++ " bytes"

variable {executor : Executor} {options : Options} {config : Config} {start : World}

/-- A dry run ends where compiling ends, with a line for each module. -/
theorem outcome_dryRun (configured : configure options start.files = .ok config) :
    (dryRun executor options).outcome start =
      (((compile executor config).outcome start).1.map (fun modules => modules.map sizeLine),
        ((compile executor config).outcome start).2) := by
  have looked : (Session.view (configure options)).outcome start = (.ok config, start) := by
    rw [Session.outcome_view, configured]
  rw [dryRun, Session.outcome_bind_of_ok _ looked]
  rcases compiled : (compile executor config).outcome start with ⟨answer, final⟩
  cases answer with
  | error failure =>
      rw [Session.outcome_bind_of_error _ compiled]
      rfl
  | ok modules =>
      rw [Session.outcome_bind_of_ok _ compiled]
      rfl

theorem outcome_generate (configured : configure options start.files = .ok config) :
    (generate executor options).outcome start = (run executor config).outcome start := by
  apply Session.outcome_bind_of_ok
  rw [Session.outcome_view, configured]

/-- The line of a module announces its file. -/
theorem announces_sizeLine {place : Files.Place} {directory : String} {cleans : Bool}
    {modules : List Module} {before after : Files.Tree}
    (installed : Files.Tree.InstalledAt place directory cleans (filesOf modules) before after)
    {entry : Module} (member : entry ∈ modules) :
    Announces after (sizeLine entry) (Files.join directory entry.kind.fileName) := by
  have found := installed.found _ (List.mem_map.mpr ⟨entry, member, rfl⟩)
  refine ⟨entry.kind.fileName, _, ?_, found, ?_⟩
  · rw [Files.parts_join directory entry.kind.isFileName_fileName.toIsName,
      List.getLast?_concat]
  · rw [Text.length_toUTF8_toList]
    rfl

/-- A run without a hook before installs what it compiles. -/
theorem run_of_compile_ok {later ready : World} {directory : String} {modules : List Module}
    (given : config.output = some directory) (noHookBefore : config.hooks.before = none)
    (compiled : (compile executor config).outcome later = (.ok modules, ready)) :
    (run executor config).outcome later =
      (install executor config directory modules).outcome ready := by
  have hooked := outcome_runHook?_none noHookBefore executor "before" later
  have prepared : (prepare executor config).outcome later =
      (.ok (directory, modules), ready) :=
    (prepare_eq_ok_iff ..).mpr ⟨given, later, hooked, compiled⟩
  rw [run_eq, Session.outcome_bind_of_ok _ prepared]

/-- A run without a hook before fails when compiling does. -/
theorem run_of_compile_error {later stopped : World} {directory : String} {failure : RunFailure}
    (given : config.output = some directory) (noHookBefore : config.hooks.before = none)
    (failed : (compile executor config).outcome later = (.error failure, stopped)) :
    (run executor config).outcome later = (.error failure, stopped) := by
  have hooked := outcome_runHook?_none noHookBefore executor "before" later
  have prepared : (prepare executor config).outcome later = (.error failure, stopped) := by
    rw [prepare_of_hooked given hooked]
    exact Session.outcome_bind_of_error _ failed
  rw [run_eq]
  exact Session.outcome_bind_of_error _ prepared

/-- Without a hook after, modules of different kinds can be installed exactly when the
output directory can receive their files. -/
theorem exists_install_iff {compiled : World} {directory : String} {modules : List Module}
    (noHookAfter : config.hooks.after = none)
    (kinds : (modules.map Module.kind).Sublist ModuleKind.all) :
    (Exists fun written : List String => Exists fun final : World =>
        (install executor config directory modules).outcome compiled = (.ok written, final)) ↔
      Files.Tree.CanReceive directory config.cleansOutput ((filesOf modules).map Prod.fst)
        compiled.files := by
  rw [← Files.Tree.exists_installs_iff (isFileName_of_mem_filesOf modules)
    (names_filesOf_nodup (kinds.nodup (by decide)))]
  constructor
  · rintro ⟨written, final, done⟩
    rcases (install_eq_ok_iff ..).mp done with ⟨_, files, installs, _⟩
    exact ⟨files, installs⟩
  · rintro ⟨files, installs⟩
    exact ⟨_, { compiled with files := files },
      (install_eq_ok_iff ..).mpr
        ⟨rfl, files, installs, outcome_runHook?_none noHookAfter executor "after" _⟩⟩

/-- The files that are installed without a hook after are announced by the lines of their
modules, in their order. -/
theorem announces_of_install {compiled final : World} {directory : String}
    {modules : List Module} {written : List String} (noHookAfter : config.hooks.after = none)
    (kinds : (modules.map Module.kind).Sublist ModuleKind.all)
    (done : (install executor config directory modules).outcome compiled =
      (.ok written, final)) :
    List.Forall₂ (Announces final.files) (modules.map sizeLine) written := by
  rcases (install_eq_ok_iff ..).mp done with ⟨rfl, files, installs, hook⟩
  cases (outcome_runHook?_none noHookAfter executor "after" _).symm.trans hook
  rcases Files.Tree.installedAt_of_installs (isFileName_of_mem_filesOf modules)
    (isTypeScript_of_mem_filesOf modules) (names_filesOf_nodup (kinds.nodup (by decide)))
    installs with ⟨place, installed⟩
  rw [List.forall₂_map_left_iff, List.forall₂_map_right_iff, List.forall₂_same]
  exact fun entry member => announces_sizeLine installed member

/-- The lines of a dry run are those of the compiled modules, which stand in the order of
generation. -/
theorem compile_lines_iff (executor : Executor) (config : Config) (start : World)
    (lines : List String) :
    ((compile executor config).outcome start).1.map (fun modules => modules.map sizeLine) =
        .ok lines ↔
      Exists fun modules : List Module =>
        ((compile executor config).outcome start).1 = .ok modules ∧
          (modules.map Module.kind).Sublist ModuleKind.all ∧
          lines = modules.map sizeLine := by
  rcases compiled : (compile executor config).outcome start with ⟨answer, final⟩
  cases answer with
  | error failure => simp [Except.map]
  | ok modules =>
      have kinds := kinds_of_compile compiled
      constructor
      · intro shown
        cases shown
        exact ⟨modules, rfl, kinds, rfl⟩
      · rintro ⟨_, same, _, rfl⟩
        cases same
        rfl

/-- A dry run shows what a run would do.  It runs the formatter and nothing else, and it
fails exactly when compiling fails, with the same failure.  Otherwise its lines stand for
the modules.  A run without hooks from the same files fails as the dry run did; and when
the dry run did not fail, that run succeeds exactly when the output directory can receive
the files, as it can where nothing is in the way, and then it has written for each line a
file with the name and the size that the line shows. -/
theorem dryRun_predicts (alike : AnswersAlike executor)
    (configured : configure options start.files = .ok config) :
    (Exists fun commands : List Command.Invocation =>
      Course executor start (commands.map Event.command)
          ((dryRun executor options).outcome start).2 ∧
        commands <+: formatterCommands config.formatter (bodiesFrom config start.files) ∧
        ((∀ invocation ∈ commands, ∀ world, (executor world invocation).2 = world.files) ->
          ((dryRun executor options).outcome start).2.files = start.files)) ∧
      (∀ failure, ((dryRun executor options).outcome start).1 = .error failure ↔
        ((compile executor config).outcome start).1 = .error failure) ∧
      (∀ lines, ((dryRun executor options).outcome start).1 = .ok lines ↔
        Exists fun modules : List Module =>
          ((compile executor config).outcome start).1 = .ok modules ∧
            (modules.map Module.kind).Sublist ModuleKind.all ∧
            lines = modules.map sizeLine) ∧
      (config.hooks.before = none -> config.hooks.after = none ->
        ∀ (later : World) (directory : String), later.files = start.files ->
          config.output = some directory ->
          (∀ failure, ((dryRun executor options).outcome start).1 = .error failure ->
            ((generate executor options).outcome later).1 = .error failure) ∧
          ∀ lines, ((dryRun executor options).outcome start).1 = .ok lines ->
            (Exists fun modules : List Module => Exists fun compiled : World =>
              (compile executor config).outcome later = (.ok modules, compiled) ∧
                lines = modules.map sizeLine ∧
                (Files.Tree.Unobstructed directory ((filesOf modules).map Prod.fst)
                    compiled.files ->
                  Files.Tree.CanReceive directory config.cleansOutput
                    ((filesOf modules).map Prod.fst) compiled.files) ∧
                (Files.Tree.CanReceive directory config.cleansOutput
                    ((filesOf modules).map Prod.fst) compiled.files ↔
                  Exists fun written : List String => Exists fun final : World =>
                    (generate executor options).outcome later = (.ok written, final))) ∧
            ∀ written final, (generate executor options).outcome later = (.ok written, final) ->
              List.Forall₂ (Announces final.files) lines written) := by
  rw [outcome_dryRun configured]
  refine ⟨?_, ?_, ?_, ?_⟩
  · exact (performs_compile executor config start).commands
  · intro failure
    cases ((compile executor config).outcome start).1 <;> simp [Except.map]
  · exact compile_lines_iff executor config start
  · intro noHookBefore noHookAfter later directory sameFiles given
    have laterConfigured : configure options later.files = .ok config := by
      rw [sameFiles]
      exact configured
    rw [outcome_generate laterConfigured, compile_of_files_eq alike config sameFiles.symm]
    rcases compiled : (compile executor config).outcome later with ⟨answer, final⟩
    cases answer with
    | error problem =>
        rw [run_of_compile_error given noHookBefore compiled]
        exact ⟨fun failure shown => by simpa [Except.map] using shown, nofun⟩
    | ok modules =>
        rw [run_of_compile_ok given noHookBefore compiled]
        refine ⟨nofun, ?_⟩
        intro lines shown
        cases shown
        have kinds := kinds_of_compile compiled
        have proper := List.forall_mem_map.mpr (isFileName_of_mem_filesOf modules)
        exact ⟨⟨modules, final, rfl, rfl,
            fun unobstructed => Files.Tree.canReceive_of_unobstructed proper unobstructed _,
            (exists_install_iff noHookAfter kinds).symm⟩,
          fun written stop done => announces_of_install noHookAfter kinds done⟩

/-- What is asked for on the command line. -/
def notesOptions : Options :=
  { input := some "api.yaml", output := some "/srv/web" }

/-- A dry run announces the two files that a run then writes, with nothing in the way. -/
theorem dryRun_notes :
    Files.Tree.Unobstructed "/srv/web" ["schemas.ts", "index.ts"] notesWorld.files ∧
      ((dryRun echoing notesOptions).outcome notesWorld).1 =
        .ok ["schemas.ts        103 bytes", "index.ts           97 bytes"] ∧
      Exists fun final : World =>
        (generate echoing notesOptions).outcome notesWorld =
            (.ok ["/srv/web/schemas.ts", "/srv/web/index.ts"], final) ∧
          List.Forall₂ (Announces final.files)
            ["schemas.ts        103 bytes", "index.ts           97 bytes"]
            ["/srv/web/schemas.ts", "/srv/web/index.ts"] := by
  have configured : configure notesOptions notesWorld.files = .ok notesConfig :=
    eq_ok_of_toOption (by decide +kernel)
  have shown : ((dryRun echoing notesOptions).outcome notesWorld).1 =
      .ok ["schemas.ts        103 bytes", "index.ts           97 bytes"] :=
    eq_ok_of_toOption (by decide +kernel)
  have ran : (generate echoing notesOptions).outcome notesWorld =
      (.ok ["/srv/web/schemas.ts", "/srv/web/index.ts"],
        ((generate echoing notesOptions).outcome notesWorld).2) :=
    outcome_eq_of_toOption (by decide +kernel)
  have alike : AnswersAlike echoing := fun _ _ _ => rfl
  rcases dryRun_predicts alike configured with ⟨_, _, _, predicts⟩
  have announced := ((predicts rfl rfl notesWorld "/srv/web" rfl rfl).2 _ shown).2
  exact ⟨by decide +kernel, shown, _, ran, announced _ _ ran⟩

end Project
end OpenApiTypes
