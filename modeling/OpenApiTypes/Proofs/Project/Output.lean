import OpenApiTypes.Proofs.Files.Installation
import OpenApiTypes.Proofs.Project.Stages

namespace OpenApiTypes

/-!
# What a run leaves in its output directory

When the commands leave files alone, everything that a run changes it changes itself:
directories on the way to the output directory, TypeScript files in the output directory
when it is cleaned, and the files of the modules.
-/

namespace ModuleKind

/-! ## The files of the modules -/

theorem isFileName_fileName (kind : ModuleKind) : Files.IsFileName kind.fileName := by
  cases kind <;>
    exact ⟨⟨by decide +kernel, by decide +kernel⟩, by decide +kernel, by decide +kernel⟩

theorem isTypeScript_fileName (kind : ModuleKind) : Files.isTypeScript kind.fileName = true := by
  refine (Files.isTypeScript_iff _).mpr ⟨kind.name, ?_, rfl⟩
  cases kind <;> decide

theorem fileName_injective {first second : ModuleKind} (same : first.fileName = second.fileName) :
    first = second := by
  cases first <;> cases second <;> first | rfl | exact absurd same (by decide +kernel)

end ModuleKind

namespace Project

/-- The names and texts of the files that modules are written to. -/
def filesOf (modules : List Module) : List (String × String) :=
  modules.map (fun entry => (entry.kind.fileName, entry.text))

theorem isFileName_of_mem_filesOf (modules : List Module) :
    ∀ file ∈ filesOf modules, Files.IsFileName file.1 := by
  intro file member
  rcases List.mem_map.mp member with ⟨entry, _, rfl⟩
  exact entry.kind.isFileName_fileName

theorem isTypeScript_of_mem_filesOf (modules : List Module) :
    ∀ file ∈ filesOf modules, Files.isTypeScript file.1 = true := by
  intro file member
  rcases List.mem_map.mp member with ⟨entry, _, rfl⟩
  exact entry.kind.isTypeScript_fileName

/-- Modules of different kinds are written to different files. -/
theorem names_filesOf_nodup {modules : List Module}
    (distinct : (modules.map Module.kind).Nodup) : ((filesOf modules).map Prod.fst).Nodup := by
  have names : (filesOf modules).map Prod.fst =
      (modules.map Module.kind).map ModuleKind.fileName := by
    rw [filesOf, List.map_map, List.map_map]
    rfl
  rw [names]
  exact distinct.map (fun _ _ same => ModuleKind.fileName_injective same)

/-- Writing modules is writing all their files. -/
theorem writeModules_eq_ok_iff (directory : String) (modules : List Module)
    (start final : World) (paths : List String) :
    (writeModules directory modules).outcome start = (.ok paths, final) ↔
      paths = modules.map (fun entry => Files.join directory entry.kind.fileName) ∧
        Exists fun files : Files.Tree =>
          Files.Tree.writeAll directory (filesOf modules) start.files = .ok files ∧
            final = { start with files := files } := by
  unfold writeModules Files.Tree.writeAll filesOf
  induction modules generalizing start final paths with
  | nil =>
      rw [List.mapM_nil, Session.outcome_pure, List.map_nil, List.map_nil, List.foldlM_nil]
      constructor
      · intro done
        cases done
        exact ⟨rfl, _, rfl, rfl⟩
      · rintro ⟨rfl, files, done, rfl⟩
        cases done
        rfl
  | cons entry rest inductionHypothesis =>
      rw [List.mapM_cons, List.map_cons, List.map_cons, List.foldlM_cons]
      dsimp only
      cases first : start.files.writeText (Files.join directory entry.kind.fileName)
          entry.text with
      | error problem =>
          rw [Session.outcome_bind_of_error _
            (Session.outcome_bind_of_error _ (Session.outcome_change_of_error first))]
          constructor
          · intro done
            cases done
          · rintro ⟨_, files, done, _⟩
            cases done
      | ok changed =>
          have written : (do
              Session.change (fun files => files.writeText
                (Files.join directory entry.kind.fileName) entry.text)
              pure (Files.join directory entry.kind.fileName) : Session String).outcome start =
              (.ok (Files.join directory entry.kind.fileName), { start with files := changed }) :=
            Session.outcome_bind_of_ok _ (Session.outcome_change_of_ok first)
          rw [Session.outcome_bind_of_ok _ written, Session.outcome_bind_eq_ok_iff]
          constructor
          · rintro ⟨others, _, later, done⟩
            rcases (inductionHypothesis _ _ _).mp later with ⟨rfl, files, all, rfl⟩
            cases done
            exact ⟨rfl, files, all, rfl⟩
          · rintro ⟨rfl, files, all, rfl⟩
            exact ⟨_, _, (inductionHypothesis _ _ _).mpr ⟨rfl, files, all, rfl⟩, rfl⟩

/-! ## Installing -/

private theorem makeDirectories_eq_ok_iff (directory : String) (start final : World) :
    (Session.changeBySteps (fun files => files.makeDirectories directory)).outcome start =
        (.ok (), final) ↔
      (start.files.makeDirectories directory).1 = .ok () ∧
        final = { start with files := (start.files.makeDirectories directory).2 } := by
  rw [Session.outcome_changeBySteps, Prod.mk.injEq, eq_comm (b := final)]
  cases (start.files.makeDirectories directory).1 with
  | error problem => simp [Except.mapError]
  | ok _ => simp [Except.mapError]

private theorem cleanWhenAsked_eq_ok_iff (config : Config) (directory : String)
    (start final : World) :
    (cleanWhenAsked config directory).outcome start = (.ok (), final) ↔
      Exists fun cleaned : Files.Tree =>
        (if config.cleansOutput then start.files.clean directory = .ok cleaned
          else cleaned = start.files) ∧ final = { start with files := cleaned } := by
  unfold cleanWhenAsked
  split
  · cases done : start.files.clean directory with
    | error problem =>
        rw [Session.outcome_change_of_error done]
        simp
    | ok cleaned =>
        rw [Session.outcome_change_of_ok done]
        simp [eq_comm]
  · rw [Session.outcome_pure, Prod.mk.injEq]
    constructor
    · rintro ⟨_, rfl⟩
      exact ⟨start.files, rfl, rfl⟩
    · rintro ⟨_, rfl, rfl⟩
      exact ⟨rfl, rfl⟩

/-- Installing succeeds when the modules can be installed as files and the hook after ends
well. -/
theorem install_eq_ok_iff (executor : Executor) (config : Config) (directory : String)
    (modules : List Module) (start final : World) (written : List String) :
    (install executor config directory modules).outcome start = (.ok written, final) ↔
      written = modules.map (fun entry => Files.join directory entry.kind.fileName) ∧
        Exists fun files : Files.Tree =>
          Files.Tree.Installs directory config.cleansOutput (filesOf modules) start.files files ∧
            (runHook? executor "after" config.hooks.after).outcome
              { start with files := files } = (.ok (), final) := by
  unfold install
  constructor
  · intro done
    rcases (Session.outcome_bind_eq_ok_iff ..).mp done with ⟨_, made, making, done⟩
    rcases (Session.outcome_bind_eq_ok_iff ..).mp done with ⟨_, _, cleaning, done⟩
    rcases (Session.outcome_bind_eq_ok_iff ..).mp done with ⟨paths, _, writing, done⟩
    rcases (Session.outcome_bind_eq_ok_iff ..).mp done with ⟨_, _, hook, done⟩
    cases done
    rcases (makeDirectories_eq_ok_iff ..).mp making with ⟨there, rfl⟩
    rcases (cleanWhenAsked_eq_ok_iff ..).mp cleaning with ⟨cleaned, clean, rfl⟩
    rcases (writeModules_eq_ok_iff ..).mp writing with ⟨same, files, all, rfl⟩
    exact ⟨same, files, ⟨there, cleaned, clean, all⟩, hook⟩
  · rintro ⟨rfl, files, ⟨there, cleaned, clean, all⟩, hook⟩
    have making := (makeDirectories_eq_ok_iff directory start _).mpr ⟨there, rfl⟩
    have cleaning := (cleanWhenAsked_eq_ok_iff config directory
      { start with files := (start.files.makeDirectories directory).2 } _).mpr
      ⟨cleaned, clean, rfl⟩
    have writing := (writeModules_eq_ok_iff directory modules
      { start with files := cleaned } _ _).mpr ⟨rfl, files, all, rfl⟩
    rw [Session.outcome_bind_of_ok _ making, Session.outcome_bind_of_ok _ cleaning,
      Session.outcome_bind_of_ok _ writing, Session.outcome_bind_of_ok _ hook]
    rfl

/-- A run that succeeds, with commands that leave files alone, has installed the modules
that it compiled in the output directory, and has changed nothing else. -/
theorem run_output {executor : Executor} {config : Config} {start final : World}
    {written : List String}
    (ran : (run executor config).outcome start = (.ok written, final))
    (alone : ∀ invocation ∈
        preparation config (plannedBodies executor config start) ++
          hookCommands config.hooks.after,
      ∀ world, (executor world invocation).2 = world.files) :
    Exists fun directory : String => Exists fun modules : List Module =>
      Exists fun hooked : World => Exists fun compiled : World =>
        config.output = some directory ∧
        (runHook? executor "before" config.hooks.before).outcome start = (.ok (), hooked) ∧
        (compile executor config).outcome hooked = (.ok modules, compiled) ∧
        (modules.map Module.kind).Sublist ModuleKind.all ∧
        written = modules.map (fun entry => Files.join directory entry.kind.fileName) ∧
        Exists fun place : Files.Place =>
          Files.Tree.InstalledAt place directory config.cleansOutput (filesOf modules)
            start.files final.files := by
  rw [List.forall_mem_append] at alone
  rw [run_eq] at ran
  rcases (Session.outcome_bind_eq_ok_iff ..).mp ran with
    ⟨⟨directory, modules⟩, ready, prepared, installed⟩
  rcases (prepare_eq_ok_iff ..).mp prepared with ⟨given, hooked, hook, compiled⟩
  rcases (install_eq_ok_iff ..).mp installed with ⟨paths, files, installs, after⟩
  have same := (performs_prepare executor config start).files_eq alone.1
  have last := (performs_runHook? executor "after" config.hooks.after
    { ready with files := files }).files_eq alone.2
  rw [prepared] at same
  rw [after] at last
  have kinds := kinds_of_compile compiled
  rw [same] at installs
  rcases Files.Tree.installedAt_of_installs (isFileName_of_mem_filesOf modules)
      (isTypeScript_of_mem_filesOf modules) (names_filesOf_nodup (kinds.nodup (by decide)))
      installs with ⟨place, there⟩
  rw [last]
  exact ⟨directory, modules, hooked, ready, given, hook, compiled, kinds, paths, place, there⟩

/-- A project whose output directory is elsewhere and holds more than modules. -/
def notesWorld : World where
  files := {
    home := ["home", "notes"]
    nodes := [
      (["home", "notes", "typegen.toml"],
        .file "clean-output = true\nformatter = ['fmt']\n".toUTF8.toList),
      (["home", "notes", "api.yaml"], .file
        "components:\n schemas:\n  Note:\n   type: string\n   enum: [größer]\n".toUTF8.toList),
      (["srv"], .directory),
      (["srv", "web"], .directory),
      (["srv", "web", "old.ts"], .file "export type Old = never;\n".toUTF8.toList),
      (["srv", "web", "notes.md"], .file "Keep.\n".toUTF8.toList),
      (["srv", "web", "more"], .directory),
      (["srv", "web", "more", "own.ts"], .file "export \x7b\x7d;\n".toUTF8.toList)] }

/-- What the configuration file says, with the paths. -/
def notesConfig : Config :=
  { input := some "api.yaml", output := some "/srv/web", cleansOutput := true,
    formatter := some ["fmt"] }

/-- Every command ends well, writes what it reads, and leaves files alone. -/
def echoing : Executor := fun world invocation =>
  (.ok ⟨.exited 0, (invocation.input.getD "").toUTF8.toList, []⟩, world.files)

theorem eq_ok_of_toOption {Problem Result : Type} {answer : Except Problem Result}
    {result : Result} (same : answer.toOption = some result) : answer = .ok result := by
  cases answer with
  | error problem => cases same
  | ok other =>
      cases same
      rfl

/-- The world at the end stays unevaluated when only the result is computed. -/
theorem outcome_eq_of_toOption {Result : Type} {outcome : Except RunFailure Result × World}
    {result : Result} (same : outcome.1.toOption = some result) :
    outcome = (.ok result, outcome.2) :=
  Prod.ext (eq_ok_of_toOption same) rfl

/-- The stale module is no longer a file of the directory. -/
theorem run_output_notes :
    Exists fun final : World =>
      (run echoing notesConfig).outcome notesWorld =
          (.ok ["/srv/web/schemas.ts", "/srv/web/index.ts"], final) ∧
        ∀ content, final.files.node? ["srv", "web", "old.ts"] ≠ some (.file content) := by
  have ran : (run echoing notesConfig).outcome notesWorld =
      (.ok ["/srv/web/schemas.ts", "/srv/web/index.ts"],
        ((run echoing notesConfig).outcome notesWorld).2) :=
    outcome_eq_of_toOption (by decide +kernel)
  rcases run_output ran (fun _ _ _ => rfl) with
    ⟨directory, modules, _, _, given, _, _, _, written, place, installed⟩
  cases given
  have there : place = ["srv", "web"] :=
    ((Files.Tree.follow_eq_ok_iff ..).mp installed.leads).1.trans (by decide +kernel)
  subst there
  refine ⟨_, ran, ?_⟩
  intro content found
  have member := (installed.alone rfl "old.ts").mp ⟨by decide +kernel, content, found⟩
  rw [filesOf, List.map_map] at member
  rcases List.mem_map.mp member with ⟨entry, inside, same⟩
  have path : Files.join "/srv/web" "old.ts" ∈
      modules.map (fun entry => Files.join "/srv/web" entry.kind.fileName) :=
    List.mem_map.mpr ⟨entry, inside, congrArg (Files.join "/srv/web") same⟩
  rw [← written] at path
  exact absurd path (by decide +kernel)

end Project
end OpenApiTypes
