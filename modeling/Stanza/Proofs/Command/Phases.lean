import Stanza.Command.Run
import Stanza.Proofs.Artifact.AllOrNone
import Stanza.Proofs.Files.Searching

set_option autoImplicit false

/-!
The exit codes of the commands that build a project. Settings, schemas, modules and texts
come one after the other, then the artifacts are written or compared; the code says which of
these failed first, and nothing but the writing of artifacts changes the tree.
-/

namespace Stanza.Command

open Files

variable {tree : FileTree} {given : Given}

/-! ### Settings -/

/-- The settings that a command works with: those of the project file, less what is given. -/
inductive Configured (tree : FileTree) (given : Given) : Settings → Prop where
  | defaults (noFile : settingsFile? tree given = none) :
      Configured tree given (override given {})
  | loaded {path : String} {settings : Settings} (used : settingsFile? tree given = some path)
      (read : loadSettings tree path = .ok settings) :
      Configured tree given (override given settings)

theorem settingsOf_eq_ok_iff (settings : Settings) :
    settingsOf tree given = .ok settings ↔ Configured tree given settings := by
  unfold settingsOf
  constructor
  · intro done
    cases used : settingsFile? tree given with
    | none =>
        rw [used] at done
        cases done
        exact .defaults used
    | some path =>
        rw [used] at done
        cases read : loadSettings tree path with
        | error error =>
            simp only [read] at done
            cases done
        | ok settings =>
            simp only [read] at done
            cases done
            exact .loaded used read
  · intro configured
    cases configured with
    | defaults noFile => rw [noFile]
    | loaded used read =>
        rw [used]
        simp only [read]

theorem settingsOf_eq_error_iff (failure : Failure) :
    settingsOf tree given = .error failure ↔
      ∃ path error, settingsFile? tree given = some path ∧
        loadSettings tree path = .error error ∧ failure = .settings path error := by
  unfold settingsOf
  cases used : settingsFile? tree given with
  | none => simp
  | some path =>
      cases read : loadSettings tree path with
      | ok settings => simp [read]
      | error error =>
          simp only [read, Except.error.injEq, Option.some.injEq]
          constructor
          · rintro rfl
            exact ⟨path, error, rfl, read, rfl⟩
          · rintro ⟨_, other, rfl, same, rfl⟩
            rw [Except.error.inj (read.symm.trans same)]

/-! ### Modules -/

/-- A file is text, but not that of modules. -/
def NoModules (tree : FileTree) (file : String) : Prop :=
  ∃ text, readText tree file = .ok text ∧ readModulesText (isJsonPath file) text = none

/-- The documents at a path can be loaded up to one of them. -/
structure LoadedUpTo (tree : FileTree) (path file : String) : Prop where
  present : pathExists tree path = true
  listed : ∃ front back, documentFiles tree path = .ok (front ++ file :: back) ∧
    ∀ early ∈ front, Succeeds (loadModuleFile tree early)

/-- There is nothing to load modules from, or the first document that fails is malformed. -/
inductive InvalidModules (tree : FileTree) (path : String) : Prop where
  | missing (nothing : pathExists tree path = false)
  | unsearchable (present : pathExists tree path = true)
      (fails : ¬ Succeeds (documentFiles tree path))
  | malformed {file : String} (first : LoadedUpTo tree path file)
      (noModules : NoModules tree file)

/-- The first document that fails cannot be read as text. -/
inductive UnreadableModule (tree : FileTree) (path : String) : Prop where
  | unreadable {file : String} (first : LoadedUpTo tree path file)
      (noText : ¬ Succeeds (readText tree file))

theorem loadModuleFile_eq_error_iff (file : String) (error : ModuleError) :
    loadModuleFile tree file = .error error ↔
      (∃ reason, readText tree file = .error reason ∧ error = .unreadable reason) ∨
        NoModules tree file ∧ error = .malformed file := by
  unfold loadModuleFile NoModules
  cases readText tree file with
  | error reason => simp [eq_comm]
  | ok text =>
      cases decoded : readModulesText (isJsonPath file) text with
      | none => simp [decoded, eq_comm]
      | some modules => simp [decoded]

theorem loadModules_eq_error_iff (path : String) (error : ModuleError) :
    loadModules tree path = .error error ↔
      (pathExists tree path = false ∧ error = .notFound path) ∨
        (pathExists tree path = true ∧
          ∃ place, documentFiles tree path = .error place ∧ error = .malformed place) ∨
        ∃ file, LoadedUpTo tree path file ∧ loadModuleFile tree file = .error error := by
  unfold loadModules
  cases there : pathExists tree path with
  | false =>
      constructor
      · intro same
        cases same
        exact .inl ⟨rfl, rfl⟩
      · rintro (⟨_, rfl⟩ | ⟨impossible, _⟩ | ⟨file, first, _⟩)
        · rfl
        · cases impossible
        · cases there.symm.trans first.present
  | true =>
      cases found : documentFiles tree path with
      | error place =>
          constructor
          · intro same
            cases same
            exact .inr (.inl ⟨rfl, place, rfl, rfl⟩)
          · rintro (⟨impossible, _⟩ | ⟨_, _, same, rfl⟩ | ⟨file, first, _⟩)
            · cases impossible
            · cases same
              rfl
            · obtain ⟨front, back, listed, _⟩ := first.listed
              cases found.symm.trans listed
      | ok files =>
          have collected : (do
              let groups ← files.mapM (loadModuleFile tree)
              pure groups.flatten) = .error error ↔
              files.mapM (loadModuleFile tree) = .error error := by
            cases files.mapM (loadModuleFile tree) <;> simp [bind, Except.bind, pure, Except.pure]
          simp only [if_true]
          rw [collected, mapM_eq_error_iff]
          constructor
          · rintro ⟨front, file, back, split, before, failed⟩
            refine .inr (.inr ⟨file, ⟨there, front, back, ?_, before⟩, failed⟩)
            rw [found, split]
          · rintro (⟨impossible, _⟩ | ⟨_, _, impossible, _⟩ | ⟨file, first, failed⟩)
            · cases impossible
            · cases impossible
            · obtain ⟨front, back, listed, before⟩ := first.listed
              exact ⟨front, file, back, Except.ok.inj (found.symm.trans listed), before, failed⟩

/-- The code of a failure to load modules. -/
def moduleCode : ModuleError → Nat
  | .unreadable _ => 1
  | _ => 2

theorem invalidModules_iff (path : String) : InvalidModules tree path ↔
    ∃ error, loadModules tree path = .error error ∧ moduleCode error = 2 := by
  constructor
  · intro invalid
    cases invalid with
    | missing nothing =>
        exact ⟨_, (loadModules_eq_error_iff _ _).mpr (.inl ⟨nothing, rfl⟩), rfl⟩
    | unsearchable present fails =>
        cases found : documentFiles tree path with
        | ok files => exact absurd ⟨files, found⟩ fails
        | error place =>
            exact ⟨_, (loadModules_eq_error_iff _ _).mpr (.inr (.inl ⟨present, place, found, rfl⟩)),
              rfl⟩
    | @malformed file first noModules =>
        have failed := (loadModuleFile_eq_error_iff file _).mpr (.inr ⟨noModules, rfl⟩)
        exact ⟨_, (loadModules_eq_error_iff _ _).mpr (.inr (.inr ⟨file, first, failed⟩)), rfl⟩
  · rintro ⟨error, failed, code⟩
    rcases (loadModules_eq_error_iff _ _).mp failed with
      ⟨nothing, _⟩ | ⟨present, place, found, _⟩ | ⟨file, first, failing⟩
    · exact .missing nothing
    · exact .unsearchable present (not_succeeds_of_eq_error found)
    · rcases (loadModuleFile_eq_error_iff file error).mp failing with
        ⟨reason, _, rfl⟩ | ⟨noModules, _⟩
      · cases code
      · exact .malformed first noModules

theorem unreadableModule_iff (path : String) : UnreadableModule tree path ↔
    ∃ error, loadModules tree path = .error error ∧ moduleCode error = 1 := by
  constructor
  · rintro ⟨first, noText⟩
    rename_i file
    cases read : readText tree file with
    | ok text => exact absurd ⟨text, read⟩ noText
    | error reason =>
        have failed := (loadModuleFile_eq_error_iff file _).mpr (.inl ⟨reason, read, rfl⟩)
        exact ⟨_, (loadModules_eq_error_iff _ _).mpr (.inr (.inr ⟨file, first, failed⟩)), rfl⟩
  · rintro ⟨error, failed, code⟩
    rcases (loadModules_eq_error_iff _ _).mp failed with
      ⟨_, rfl⟩ | ⟨_, place, _, rfl⟩ | ⟨file, first, failing⟩
    · cases code
    · cases code
    · rcases (loadModuleFile_eq_error_iff file error).mp failing with
        ⟨reason, read, _⟩ | ⟨_, rfl⟩
      · exact .unreadable first (not_succeeds_of_eq_error read)
      · cases code

/-! ### Phases up to the texts -/

/-- Everything that a project is made of is loaded. -/
structure Loaded (tree : FileTree) (given : Given) (settings : Settings) (registry : Registry)
    (modules : List Module) : Prop where
  configured : Configured tree given settings
  registered : loadRegistry tree settings.schemas = .ok registry
  listed : loadModules tree settings.modules = .ok modules

/-- The project of the settings is built. -/
inductive Built (tree : FileTree) (given : Given) (settings : Settings) (output : ProjectOutput) :
    Prop where
  | built {registry : Registry} {modules : List Module}
      (loaded : Loaded tree given settings registry modules)
      (compiled : buildProject settings.collisionPolicy (settings.schedule modules)
        (settings.compiler registry) modules = .ok output)

/-- A phase up to the texts is the first that fails, with its code. -/
inductive Stops (tree : FileTree) (given : Given) : Nat → Prop where
  | settings {path : String} (used : settingsFile? tree given = some path)
      (fails : ¬ Succeeds (loadSettings tree path)) : Stops tree given 2
  | schemas {settings : Settings} (configured : Configured tree given settings)
      (fails : ¬ Succeeds (loadRegistry tree settings.schemas)) : Stops tree given 4
  | invalidModules {settings : Settings} (configured : Configured tree given settings)
      (registered : Succeeds (loadRegistry tree settings.schemas))
      (fails : InvalidModules tree settings.modules) : Stops tree given 2
  | unreadableModule {settings : Settings} (configured : Configured tree given settings)
      (registered : Succeeds (loadRegistry tree settings.schemas))
      (fails : UnreadableModule tree settings.modules) : Stops tree given 1
  | compiling {settings : Settings} {registry : Registry} {modules : List Module}
      (loaded : Loaded tree given settings registry modules)
      (fails : ¬ Succeeds (buildProject settings.collisionPolicy (settings.schedule modules)
        (settings.compiler registry) modules)) : Stops tree given 3

theorem exitCode_modules (path : String) (error : ModuleError) :
    (Failure.modules path error).exitCode = moduleCode error := by
  cases error <;> rfl

theorem registryOf_eq_ok_iff (settings : Settings) (registry : Registry) :
    registryOf tree settings = .ok registry ↔
      loadRegistry tree settings.schemas = .ok registry := by
  unfold registryOf
  cases loadRegistry tree settings.schemas <;> simp

theorem registryOf_eq_error_iff (settings : Settings) (failure : Failure) :
    registryOf tree settings = .error failure ↔
      ∃ error, loadRegistry tree settings.schemas = .error error ∧
        failure = .schemas settings.schemas error := by
  unfold registryOf
  cases loadRegistry tree settings.schemas <;> simp [eq_comm]

theorem modulesOf_eq_ok_iff (settings : Settings) (modules : List Module) :
    modulesOf tree settings = .ok modules ↔ loadModules tree settings.modules = .ok modules := by
  unfold modulesOf
  cases loadModules tree settings.modules <;> simp

theorem modulesOf_eq_error_iff (settings : Settings) (failure : Failure) :
    modulesOf tree settings = .error failure ↔
      ∃ error, loadModules tree settings.modules = .error error ∧
        failure = .modules settings.modules error := by
  unfold modulesOf
  cases loadModules tree settings.modules <;> simp [eq_comm]

theorem compileAll_eq_ok_iff (settings : Settings) (registry : Registry) (modules : List Module)
    (output : ProjectOutput) : compileAll settings registry modules = .ok output ↔
      buildProject settings.collisionPolicy (settings.schedule modules)
        (settings.compiler registry) modules = .ok output := by
  unfold compileAll
  cases buildProject settings.collisionPolicy (settings.schedule modules)
    (settings.compiler registry) modules <;> simp

theorem compileAll_eq_error_iff (settings : Settings) (registry : Registry)
    (modules : List Module) (failure : Failure) :
    compileAll settings registry modules = .error failure ↔
      ∃ error, buildProject settings.collisionPolicy (settings.schedule modules)
        (settings.compiler registry) modules = .error error ∧ failure = .compile error := by
  unfold compileAll
  cases buildProject settings.collisionPolicy (settings.schedule modules)
    (settings.compiler registry) modules <;> simp [eq_comm]

theorem settingsAndProject_eq_ok_iff (settings : Settings) (output : ProjectOutput) :
    settingsAndProject tree given = .ok (settings, output) ↔ Built tree given settings output := by
  unfold settingsAndProject projectOf
  constructor
  · intro done
    obtain ⟨_, configured, later⟩ := bind_eq_ok_iff.mp done
    obtain ⟨_, built, same⟩ := bind_eq_ok_iff.mp later
    cases same
    obtain ⟨registry, registered, later⟩ := bind_eq_ok_iff.mp built
    obtain ⟨modules, listed, compiled⟩ := bind_eq_ok_iff.mp later
    exact .built ⟨(settingsOf_eq_ok_iff _).mp configured,
      (registryOf_eq_ok_iff _ _).mp registered, (modulesOf_eq_ok_iff _ _).mp listed⟩
      ((compileAll_eq_ok_iff _ _ _ _).mp compiled)
  · rintro ⟨⟨configured, registered, listed⟩, compiled⟩
    refine bind_eq_ok_iff.mpr ⟨settings, (settingsOf_eq_ok_iff _).mpr configured, ?_⟩
    refine bind_eq_ok_iff.mpr ⟨output, ?_, rfl⟩
    refine bind_eq_ok_iff.mpr ⟨_, (registryOf_eq_ok_iff _ _).mpr registered, ?_⟩
    exact bind_eq_ok_iff.mpr ⟨_, (modulesOf_eq_ok_iff _ _).mpr listed,
      (compileAll_eq_ok_iff _ _ _ _).mpr compiled⟩

theorem stops_of_modules_error {settings : Settings} {path : String} {error : ModuleError}
    (configured : Configured tree given settings)
    (registered : Succeeds (loadRegistry tree settings.schemas))
    (failed : loadModules tree settings.modules = .error error) :
    Stops tree given (Failure.modules path error).exitCode := by
  rw [exitCode_modules]
  have known : moduleCode error = 1 ∨ moduleCode error = 2 := by
    cases error <;> simp [moduleCode]
  rcases known with code | code
  · rw [code]
    exact .unreadableModule configured registered
      ((unreadableModule_iff _).mpr ⟨error, failed, code⟩)
  · rw [code]
    exact .invalidModules configured registered
      ((invalidModules_iff _).mpr ⟨error, failed, code⟩)

theorem stops_of_failure {failure : Failure}
    (failed : settingsAndProject tree given = .error failure) :
    Stops tree given failure.exitCode := by
  unfold settingsAndProject projectOf at failed
  rcases bind_eq_error_iff.mp failed with unset | ⟨settings, configured, later⟩
  · obtain ⟨path, error, used, read, rfl⟩ := (settingsOf_eq_error_iff _).mp unset
    exact .settings used (not_succeeds_of_eq_error read)
  replace configured := (settingsOf_eq_ok_iff settings).mp configured
  rcases bind_eq_error_iff.mp later with unbuilt | ⟨output, _, impossible⟩
  · rcases bind_eq_error_iff.mp unbuilt with unregistered | ⟨registry, registered, later⟩
    · obtain ⟨error, load, rfl⟩ := (registryOf_eq_error_iff _ _).mp unregistered
      exact .schemas configured (not_succeeds_of_eq_error load)
    replace registered := (registryOf_eq_ok_iff settings registry).mp registered
    rcases bind_eq_error_iff.mp later with unlisted | ⟨modules, listed, uncompiled⟩
    · obtain ⟨error, load, rfl⟩ := (modulesOf_eq_error_iff _ _).mp unlisted
      exact stops_of_modules_error configured ⟨registry, registered⟩ load
    · replace listed := (modulesOf_eq_ok_iff settings modules).mp listed
      obtain ⟨error, build, rfl⟩ := (compileAll_eq_error_iff _ _ _ _).mp uncompiled
      exact .compiling ⟨configured, registered, listed⟩ (not_succeeds_of_eq_error build)
  · cases impossible

theorem failure_of_projectOf {settings : Settings} {failure : Failure}
    (configured : Configured tree given settings)
    (failed : projectOf tree settings = .error failure) :
    settingsAndProject tree given = .error failure := by
  apply bind_eq_error_iff.mpr
  refine .inr ⟨settings, (settingsOf_eq_ok_iff settings).mpr configured, ?_⟩
  exact bind_eq_error_iff.mpr (.inl failed)

theorem projectOf_of_modules_error {settings : Settings} {error : ModuleError}
    (registered : Succeeds (loadRegistry tree settings.schemas))
    (failed : loadModules tree settings.modules = .error error) :
    projectOf tree settings = .error (.modules settings.modules error) := by
  obtain ⟨registry, load⟩ := registered
  refine bind_eq_error_iff.mpr (.inr ⟨registry, (registryOf_eq_ok_iff _ _).mpr load, ?_⟩)
  exact bind_eq_error_iff.mpr (.inl ((modulesOf_eq_error_iff _ _).mpr ⟨error, failed, rfl⟩))

theorem failure_of_stops {code : Nat} (stops : Stops tree given code) :
    ∃ failure, settingsAndProject tree given = .error failure ∧ failure.exitCode = code := by
  cases stops with
  | @settings path used fails =>
      obtain ⟨error, read⟩ := exists_error_of_not_succeeds fails
      refine ⟨.settings path error, bind_eq_error_iff.mpr (.inl ?_), rfl⟩
      exact (settingsOf_eq_error_iff _).mpr ⟨_, error, used, read, rfl⟩
  | @schemas settings configured fails =>
      obtain ⟨error, load⟩ := exists_error_of_not_succeeds fails
      refine ⟨.schemas settings.schemas error, failure_of_projectOf configured ?_, rfl⟩
      exact bind_eq_error_iff.mpr (.inl ((registryOf_eq_error_iff _ _).mpr ⟨error, load, rfl⟩))
  | invalidModules configured registered fails =>
      obtain ⟨error, failed, code⟩ := (invalidModules_iff _).mp fails
      have failure := projectOf_of_modules_error registered failed
      exact ⟨_, failure_of_projectOf configured failure, (exitCode_modules _ error).trans code⟩
  | unreadableModule configured registered fails =>
      obtain ⟨error, failed, code⟩ := (unreadableModule_iff _).mp fails
      have failure := projectOf_of_modules_error registered failed
      exact ⟨_, failure_of_projectOf configured failure, (exitCode_modules _ error).trans code⟩
  | compiling loaded fails =>
      obtain ⟨error, build⟩ := exists_error_of_not_succeeds fails
      refine ⟨.compile error, failure_of_projectOf loaded.configured ?_, rfl⟩
      refine bind_eq_error_iff.mpr
        (.inr ⟨_, (registryOf_eq_ok_iff _ _).mpr loaded.registered, ?_⟩)
      refine bind_eq_error_iff.mpr (.inr ⟨_, (modulesOf_eq_ok_iff _ _).mpr loaded.listed, ?_⟩)
      exact (compileAll_eq_error_iff _ _ _ _).mpr ⟨error, build, rfl⟩

/-! ### Whole commands -/

/-- How a command that builds a project ends, and with which code. -/
inductive Ends (tree : FileTree) (given : Given) : Subcommand → Nat → Prop where
  | stopped {command : Subcommand} {code : Nat} (stops : Stops tree given code) :
      Ends tree given command code
  | unwritten {settings : Settings} {output : ProjectOutput}
      (built : Built tree given settings output)
      (fails : ¬ Succeeds (writeArtifacts tree settings.output output).2) :
      Ends tree given .generate 1
  | written {settings : Settings} {output : ProjectOutput}
      (built : Built tree given settings output)
      (done : Succeeds (writeArtifacts tree settings.output output).2) :
      Ends tree given .generate 0
  | uncompared {settings : Settings} {output : ProjectOutput}
      (built : Built tree given settings output)
      (fails : ∃ artifact ∈ output.artifacts, ¬ Comparable tree settings.output artifact) :
      Ends tree given .check 1
  | outOfDate {settings : Settings} {output : ProjectOutput}
      (built : Built tree given settings output)
      (done : ∀ artifact ∈ output.artifacts, Comparable tree settings.output artifact)
      (stale : ∃ artifact ∈ output.artifacts, ¬ Written tree settings.output artifact) :
      Ends tree given .check 5
  | upToDate {settings : Settings} {output : ProjectOutput}
      (built : Built tree given settings output)
      (same : ∀ artifact ∈ output.artifacts, Written tree settings.output artifact) :
      Ends tree given .check 0

theorem run_eq_outcome {environment : List (String × String)} {arguments : List String}
    {command : Subcommand} {given : Given}
    (asked : readArguments environment arguments = some (.run command given)) :
    run tree environment arguments = (runCommand tree command given).outcome := by
  unfold run
  rw [asked]

theorem generate_of_built {settings : Settings} {output : ProjectOutput}
    (built : Built tree given settings output) :
    generate tree given =
      match writeArtifacts tree settings.output output with
      | (next, .ok report) => { lines := writtenLines report, tree := next }
      | (next, .error error) => {
          failure := some (.writing settings.output error)
          tree := next } := by
  have project := (settingsAndProject_eq_ok_iff settings output).mpr built
  unfold generate
  generalize settingsAndProject tree given = outcome at project ⊢
  subst project
  rfl

theorem check_of_built {settings : Settings} {output : ProjectOutput}
    (built : Built tree given settings output) :
    check tree given =
      match checkArtifacts tree settings.output output with
      | .error error => { failure := some (.comparing settings.output error), tree := tree }
      | .ok report =>
          if report.isUpToDate then { lines := ["✅ Artifacts are up to date"], tree := tree }
          else {
            lines := staleLines report
            failure := some (.outOfDate report.changed)
            tree := tree } := by
  have project := (settingsAndProject_eq_ok_iff settings output).mpr built
  unfold check
  generalize settingsAndProject tree given = outcome at project ⊢
  subst project
  rfl

theorem ends_generate : Ends tree given .generate (generate tree given).outcome.exit := by
  cases build : settingsAndProject tree given with
  | error failure =>
      unfold generate
      rw [build]
      exact .stopped (stops_of_failure build)
  | ok project =>
      have built := (settingsAndProject_eq_ok_iff project.1 project.2).mp build
      rw [generate_of_built built]
      cases writing : writeArtifacts tree project.1.output project.2 with
      | mk next result =>
          cases result with
          | ok report =>
              apply Ends.written built
              rw [writing]
              exact succeeds_ok report
          | error error =>
              apply Ends.unwritten built
              rw [writing]
              exact not_succeeds_error error

theorem exit_generate_of_ends {code : Nat} (ends : Ends tree given .generate code) :
    (generate tree given).outcome.exit = code := by
  cases ends with
  | stopped stops =>
      obtain ⟨failure, failed, same⟩ := failure_of_stops stops
      unfold generate
      rw [failed]
      exact same
  | @unwritten settings output built fails =>
      rw [generate_of_built built]
      cases writing : writeArtifacts tree settings.output output with
      | mk next result =>
          rw [writing] at fails
          cases result with
          | ok report => exact absurd (succeeds_ok report) fails
          | error error => rfl
  | @written settings output built done =>
      rw [generate_of_built built]
      cases writing : writeArtifacts tree settings.output output with
      | mk next result =>
          rw [writing] at done
          cases result with
          | ok report => rfl
          | error error => exact absurd done (not_succeeds_error error)

theorem ends_check : Ends tree given .check (check tree given).outcome.exit := by
  cases build : settingsAndProject tree given with
  | error failure =>
      unfold check
      rw [build]
      exact .stopped (stops_of_failure build)
  | ok project =>
      have built := (settingsAndProject_eq_ok_iff project.1 project.2).mp build
      have comparable := succeeds_checkArtifacts_iff tree project.1.output project.2
      rw [check_of_built built]
      cases checking : checkArtifacts tree project.1.output project.2 with
      | error error =>
          apply Ends.uncompared built
          by_contra none
          push Not at none
          exact not_succeeds_of_eq_error checking (comparable.mpr none)
      | ok report =>
          have same := isUpToDate_iff checking
          by_cases upToDate : report.isUpToDate = true
          · simp only [if_pos upToDate]
            exact .upToDate built (same.mp upToDate)
          · simp only [if_neg upToDate]
            apply Ends.outOfDate built (comparable.mp ⟨report, checking⟩)
            by_contra none
            push Not at none
            exact upToDate (same.mpr none)

theorem exit_check_of_ends {code : Nat} (ends : Ends tree given .check code) :
    (check tree given).outcome.exit = code := by
  cases ends with
  | stopped stops =>
      obtain ⟨failure, failed, same⟩ := failure_of_stops stops
      unfold check
      rw [failed]
      exact same
  | uncompared built fails =>
      obtain ⟨artifact, member, incomparable⟩ := fails
      rw [check_of_built built]
      cases checking : checkArtifacts tree _ _ with
      | error error => rfl
      | ok report =>
          exact absurd ((succeeds_checkArtifacts_iff _ _ _).mp ⟨report, checking⟩ artifact member)
            incomparable
  | outOfDate built done stale =>
      obtain ⟨report, checking⟩ := (succeeds_checkArtifacts_iff _ _ _).mpr done
      have unequal : ¬ report.isUpToDate = true := by
        intro upToDate
        obtain ⟨artifact, member, other⟩ := stale
        exact other ((isUpToDate_iff checking).mp upToDate artifact member)
      rw [check_of_built built, checking]
      simp only [if_neg unequal]
      rfl
  | upToDate built same =>
      obtain ⟨report, checking⟩ := (succeeds_checkArtifacts_iff _ _ _).mpr
        fun artifact member => comparable_of_written (same artifact member)
      rw [check_of_built built, checking]
      simp only [if_pos ((isUpToDate_iff checking).mpr same)]
      rfl

theorem tree_check : (check tree given).tree = tree := by
  unfold check
  cases settingsAndProject tree given with
  | error failure => rfl
  | ok project =>
      cases checking : checkArtifacts tree project.1.output project.2 with
      | error error => simp only [checking]
      | ok report => by_cases same : report.isUpToDate = true <;> simp [checking, same]

/-- Every artifact path is as it was once the output directory had been made. -/
theorem places_of_unwritten {settings : Settings} {output : ProjectOutput} (plain : Plain tree)
    (fails : ¬ Succeeds (writeArtifacts tree settings.output output).2) :
    ∀ artifact ∈ output.artifacts,
      let path := artifactPath settings.output artifact
      state (writeArtifacts tree settings.output output).1 path =
          state (makeDirectories tree settings.output).1 path ∧
        (state tree path ≠ .absent ∨ ".." ∉ names settings.output →
          state (writeArtifacts tree settings.output output).1 path = state tree path) := by
  intro artifact member
  have grows := Disk.sound.grows_makeDirectories plain settings.output
  rcases writeArtifactsOn_cases .sound settings.output output plain with
    ⟨after, report, done, _⟩ | ⟨after, error, failed, same⟩
  · unfold writeArtifacts at fails
    rw [done] at fails
    exact absurd (succeeds_ok report) fails
  · unfold writeArtifacts
    rw [failed]
    refine ⟨same artifact member, fun kept => ?_⟩
    have named := (wellNamed_artifacts output).each artifact member
    exact (same artifact member).trans (grows.state_kept plain named.ofArtifact kept)

theorem tree_generate_of_stops {code : Nat} (stops : Stops tree given code) :
    (generate tree given).tree = tree := by
  obtain ⟨failure, failed, _⟩ := failure_of_stops stops
  unfold generate
  rw [failed]

theorem places_generate {settings : Settings} {output : ProjectOutput} (plain : Plain tree)
    (built : Built tree given settings output)
    (failed : (generate tree given).outcome.exit ≠ 0) :
    ∀ artifact ∈ output.artifacts,
      let path := artifactPath settings.output artifact
      state (generate tree given).tree path =
          state (makeDirectories tree settings.output).1 path ∧
        (state tree path ≠ .absent ∨ ".." ∉ names settings.output →
          state (generate tree given).tree path = state tree path) := by
  have unwritten : ¬ Succeeds (writeArtifacts tree settings.output output).2 :=
    fun done => failed (exit_generate_of_ends (.written built done))
  have places := places_of_unwritten plain unwritten
  rw [generate_of_built built]
  cases writing : writeArtifacts tree settings.output output with
  | mk next result =>
      rw [writing] at places
      cases result <;> exact places

/-- A project with nothing in it. -/
def bareTree : FileTree := .directory [("schemas", .directory []), ("modules", .directory [])]

theorem regular_bareTree : Regular bareTree :=
  .cons (isName_of (by decide)) .empty (.cons (isName_of (by decide)) .empty .empty)

end Stanza.Command
