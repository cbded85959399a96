import Stanza.Proofs.Artifact.Rewriting
import Stanza.Proofs.Command.Phases

set_option autoImplicit false

/-!
Running a project again on the tree that its first run left. When the files that the run
moves lie neither at nor below what it reads, the second run reads the same documents, so
that its artifacts are the ones that are there.
-/

namespace Stanza.Command

open Files

variable {places : List Position} {tree next : FileTree}

/-! ### Loading again -/

/-- What could be read is read again with the same contents. -/
def ReadsAgain (tree next : FileTree) (path : String) : Prop :=
  ∀ contents, read tree path = .ok contents → read next path = .ok contents

theorem readText_again {path text : String} (again : ReadsAgain tree next path)
    (done : readText tree path = .ok text) : readText next path = .ok text := by
  unfold readText at done ⊢
  cases held : read tree path with
  | error error =>
      rw [held] at done
      cases done
  | ok contents =>
      rw [held] at done
      rw [again contents held]
      exact done

/-- What is decided by the text at a path is decided in the same way again. -/
theorem load_again {ε α : Type} {path : String} {load : FileTree → Except ε α}
    {unreadable : FileError → ε} {decode : String → Except ε α}
    (reads : ∀ tree, load tree = match readText tree path with
      | .error error => .error (unreadable error)
      | .ok text => decode text)
    (again : ReadsAgain tree next path) {result : α} (done : load tree = .ok result) :
    load next = .ok result := by
  rw [reads] at done ⊢
  cases held : readText tree path with
  | error error =>
      rw [held] at done
      cases done
  | ok text =>
      rw [held] at done
      rw [readText_again again held]
      exact done

theorem loadProvider_again {path : String} {document : ProviderDocument}
    (again : ReadsAgain tree next path) (done : loadProvider tree path = .ok document) :
    loadProvider next path = .ok document :=
  load_again (fun _ => rfl) again done

theorem loadModuleFile_again {path : String} {modules : List Module}
    (again : ReadsAgain tree next path) (done : loadModuleFile tree path = .ok modules) :
    loadModuleFile next path = .ok modules :=
  load_again (fun _ => rfl) again done

theorem loadSettings_again {path : String} {settings : Settings}
    (again : ReadsAgain tree next path) (done : loadSettings tree path = .ok settings) :
    loadSettings next path = .ok settings :=
  load_again (fun _ => rfl) again done

theorem registerFiles_again {files : List String} {registry result : Registry}
    (again : ∀ file ∈ files, ReadsAgain tree next file)
    (done : registerFiles tree registry files = .ok result) :
    registerFiles next registry files = .ok result := by
  induction files generalizing registry with
  | nil => exact done
  | cons file rest ih =>
      rw [registerFiles] at done ⊢
      obtain ⟨document, loaded, later⟩ := bind_eq_ok_iff.mp done
      rw [loadProvider_again (again file List.mem_cons_self) loaded]
      cases registered : registry.registerProvider document with
      | mk reached failure =>
          simp only [registered] at later
          cases failure with
          | some error => cases later
          | none =>
              simp only [bind, Except.bind, registered]
              exact ih (fun other member => again other (List.mem_cons_of_mem _ member)) later

/-- The places that a run writes to lie neither at what a path leads to nor below it. -/
def OutOfTheWay (places : List Position) (tree : FileTree) (path : String) : Prop :=
  ∀ position ∈ location? tree path, ClearOf places position

instance (places : List Position) (tree : FileTree) (path : String) :
    Decidable (OutOfTheWay places tree path) :=
  inferInstanceAs (Decidable (∀ position ∈ location? tree path, ClearOf places position))

theorem readsAgain_of_outOfTheWay (rewrites : Rewrites places tree next) {path : String}
    (clear : OutOfTheWay places tree path) : ReadsAgain tree next path := by
  intro contents done
  obtain ⟨position, resolved⟩ := resolve_of_read done
  have located := (location?_eq_some_iff _ _ _).mpr ⟨_, resolved⟩
  exact rewrites.read_kept (clear position located) resolved

theorem loadRegistry_again (rewrites : Rewrites places tree next) (regular : Regular tree)
    {path : String} (clear : OutOfTheWay places tree path) {registry : Registry}
    (done : loadRegistry tree path = .ok registry) : loadRegistry next path = .ok registry := by
  unfold loadRegistry at done ⊢
  cases present : pathExists tree path with
  | false =>
      rw [present] at done
      cases done
  | true =>
      rw [if_pos present] at done
      rw [if_pos (rewrites.pathExists_kept clear present)]
      cases found : documentFiles tree path with
      | error place =>
          rw [found] at done
          cases done
      | ok files =>
          rw [found] at done
          obtain ⟨again, reads⟩ := rewrites.documentFiles_kept regular clear found
          rw [again]
          exact registerFiles_again reads done

theorem loadModules_again (rewrites : Rewrites places tree next) (regular : Regular tree)
    {path : String} (clear : OutOfTheWay places tree path) {modules : List Module}
    (done : loadModules tree path = .ok modules) : loadModules next path = .ok modules := by
  unfold loadModules at done ⊢
  cases present : pathExists tree path with
  | false =>
      rw [present] at done
      cases done
  | true =>
      rw [if_pos present] at done
      rw [if_pos (rewrites.pathExists_kept clear present)]
      cases found : documentFiles tree path with
      | error place =>
          rw [found] at done
          cases done
      | ok files =>
          rw [found] at done
          obtain ⟨groups, loaded, same⟩ := bind_eq_ok_iff.mp done
          obtain ⟨again, reads⟩ := rewrites.documentFiles_kept regular clear found
          rw [again]
          refine bind_eq_ok_iff.mpr ⟨groups, ?_, same⟩
          rw [mapM_eq_ok_iff] at loaded ⊢
          rw [List.forall₂_iff_get] at loaded ⊢
          refine ⟨loaded.1, fun index first second => ?_⟩
          exact loadModuleFile_again (reads _ (List.get_mem _ _)) (loaded.2 index first second)

/-! ### The same project -/

def projectParameters : List Parameter :=
  [.config, .schemas, .modules, .output, .rejectCollisions, .bracedObjects, .sequential]

/-- Two sets of arguments say the same about the project. -/
def SameProject (given other : Given) : Prop :=
  ∀ parameter ∈ projectParameters, other.lookup parameter = given.lookup parameter

instance (given other : Given) : Decidable (SameProject given other) :=
  inferInstanceAs (Decidable
    (∀ parameter ∈ projectParameters, other.lookup parameter = given.lookup parameter))

theorem override_of_sameProject {given other : Given} (same : SameProject given other) :
    override other = override given := by
  funext settings
  unfold override isGiven
  rw [same .schemas (by decide), same .modules (by decide), same .output (by decide),
    same .rejectCollisions (by decide), same .bracedObjects (by decide),
    same .sequential (by decide)]

/--
What a run reads is apart from what it writes: the schemas, the modules and the project file
that is used lie neither at nor above a place of an artifact or of a staging file, and when
no project file is used none appears as the output directory is made.
-/
structure Separate (tree : FileTree) (given : Given) (settings : Settings) : Prop where
  schemas : OutOfTheWay (movedPlaces tree settings.output) tree settings.schemas
  modules : OutOfTheWay (movedPlaces tree settings.output) tree settings.modules
  projectFile : ∀ path ∈ settingsFile? tree given,
    OutOfTheWay (movedPlaces tree settings.output) tree path
  noProjectFile : settingsFile? tree given = none →
    settingsFile? (makeDirectories tree settings.output).1 given = none

theorem pathExists_eq_false_iff (tree : FileTree) (path : String) :
    pathExists tree path = false ↔ state tree path = .absent := by
  unfold pathExists state
  cases lookup tree path with
  | error error => simp
  | ok entry => cases entry <;> simp [Entry.state]

theorem isName_defaultSettingsFile : IsName defaultSettingsFile := isName_of (by decide)

theorem endsInName_defaultSettingsFile : EndsInName defaultSettingsFile := by
  rw [← join_empty defaultSettingsFile]
  exact endsInName_join "" isName_defaultSettingsFile

/-- No artifact and no staging file is named as the project file is by default. -/
theorem apart_defaultSettingsFile (tree : FileTree) (directory : String)
    (output : ProjectOutput) :
    ∀ path ∈ movedPaths directory output.artifacts, Apart tree defaultSettingsFile path := by
  intro path member position left right
  obtain ⟨artifact, inside, here⟩ := List.mem_flatMap.mp member
  have named := (wellNamed_artifacts output).each artifact inside
  rw [← join_empty defaultSettingsFile] at left
  obtain ⟨_, directory, _, leftIs⟩ := exists_of_position?_join isName_defaultSettingsFile left
  have names : artifact.name ≠ defaultSettingsFile ∧
      artifact.stagingName ≠ defaultSettingsFile := by
    simp only [ProjectOutput.artifacts, List.mem_cons, List.not_mem_nil, or_false] at inside
    have each : artifact.name = "resources.tf" ∨ artifact.name = "data_sources.tf" ∨
        artifact.name = "resources.json" ∨ artifact.name = "data_sources.json" := by
      rcases inside with rfl | rfl | rfl | rfl <;> simp
    unfold Artifact.stagingName
    rcases each with same | same | same | same <;> rw [same] <;> decide
  rcases List.mem_pair.mp here with rfl | rfl
  · obtain ⟨_, place, _, rightIs⟩ := exists_of_position?_join named.ofArtifact right
    have same := List.append_inj_right' (rightIs.symm.trans leftIs) rfl
    exact names.1 (List.singleton_inj.mp same)
  · obtain ⟨place, _, rightIs⟩ := exists_of_position?_stagingPath named right
    have same := List.append_inj_right' (rightIs.symm.trans leftIs) rfl
    exact names.2 (List.singleton_inj.mp same)

theorem settingsFile?_again {given other : Given} {settings : Settings} {output : ProjectOutput}
    {report : Report} (plain : Plain tree) (separate : Separate tree given settings)
    (same : SameProject given other)
    (done : writeArtifacts tree settings.output output = (next, .ok report)) :
    settingsFile? next other = settingsFile? tree given := by
  have rewrites := rewrites_of_written plain done
  have clear := separate.projectFile
  have absent := separate.noProjectFile
  unfold settingsFile? at clear absent ⊢
  rw [same .config (by decide)]
  cases config : given.lookup Parameter.config with
  | some path => rfl
  | none =>
      simp only [config] at clear absent ⊢
      cases there : pathExists tree defaultSettingsFile with
      | true =>
          simp only [there, if_true] at clear
          rw [rewrites.pathExists_kept (clear _ rfl) there]
      | false =>
          -- None appears with the directories, nor with the artifacts, which have other names.
          have differ := filesDiffer_of_written plain done
          have grown := (Disk.sound.grows_makeDirectories plain settings.output).plain
          have notMade : pathExists (makeDirectories tree settings.output).1 defaultSettingsFile =
              false := by
            simpa [there] using absent
          rw [pathExists_eq_false_iff] at notMade
          have stillNot := differ.state_eq grown endsInName_defaultSettingsFile
            (apart_defaultSettingsFile _ _ _)
          rw [(pathExists_eq_false_iff _ _).mpr (stillNot.trans notMade)]

theorem built_again {given other : Given} {settings : Settings} {output : ProjectOutput}
    {report : Report} (plain : Plain tree) (regular : Regular tree)
    (separate : Separate tree given settings) (same : SameProject given other)
    (built : Built tree given settings output)
    (done : writeArtifacts tree settings.output output = (next, .ok report)) :
    Built next other settings output := by
  have rewrites := rewrites_of_written plain done
  have used := settingsFile?_again plain separate same done
  obtain ⟨⟨configured, registered, listed⟩, compiled⟩ := built
  refine .built ⟨?_, loadRegistry_again rewrites regular separate.schemas registered,
    loadModules_again rewrites regular separate.modules listed⟩ compiled
  have clear := separate.projectFile
  cases configured with
  | defaults noFile =>
      rw [← override_of_sameProject same]
      exact .defaults (used.trans noFile)
  | loaded isUsed read =>
      rw [← override_of_sameProject same]
      exact .loaded (used.trans isUsed)
        (loadSettings_again (readsAgain_of_outOfTheWay rewrites (clear _ isUsed)) read)

/-! ### The second run -/

theorem built_of_exit_zero {given : Given} (succeeded : (generate tree given).outcome.exit = 0) :
    ∃ settings output report, Built tree given settings output ∧
      writeArtifacts tree settings.output output = ((generate tree given).tree, .ok report) := by
  have ends : Ends tree given .generate (generate tree given).outcome.exit := ends_generate
  rw [succeeded] at ends
  cases ends with
  | stopped stops => cases stops
  | @written settings output built done =>
      rw [generate_of_built built]
      cases writing : writeArtifacts tree settings.output output with
      | mk next result =>
          rw [writing] at done
          obtain ⟨report, isReport⟩ := done
          cases (isReport : result = _)
          exact ⟨settings, output, report, built, writing⟩

def linkSchema : String :=
  "provider: acme\nresources:\n  link:\n    kind: record\n    required:\n      url:\n" ++
    "        kind: string\n"

def linkModule : String := "resources:\n  link:\n    home:\n      url: a\n"

/-- A schema and a module, with one more entry beside their directories. -/
def linkProject (name : String) (entry : Entry) : FileTree := .directory [
  ("schemas", .directory [("acme.yaml", .file linkSchema.toUTF8)]),
  ("modules", .directory [("main.yaml", .file linkModule.toUTF8)]),
  (name, entry)]

theorem regular_linkProject {name : String} {entry : Entry} (named : IsName name)
    (regular : Regular entry) : Regular (linkProject name entry) :=
  .cons (isName_of (by decide)) (.cons (isName_of (by decide)) (.file _) .empty)
    (.cons (isName_of (by decide)) (.cons (isName_of (by decide)) (.file _) .empty)
      (.cons named regular .empty))

def configuredProject : FileTree := linkProject "tfgen.yaml" (.file "output: out".toUTF8)

/-- The exit codes of generating and of checking right afterwards. -/
def generateThenCheck (tree : FileTree) (arguments : List String) : Nat × Nat :=
  let first := run tree [] ("generate" :: arguments)
  (first.exit, (run first.tree [] ("check" :: arguments)).exit)

theorem bareTree_into_schemas :
    (run bareTree [] ["generate", "--output", "schemas"]).exit = 0 := by decide +kernel

/-- The bare project with its artifacts among its schemas. -/
def schemasWritten : FileTree := (run bareTree [] ["generate", "--output", "schemas"]).tree

theorem plain_schemasWritten : Plain schemasWritten := by
  have asked : readArguments [] ["generate", "--output", "schemas"] =
      some (.run .generate [(.output, "schemas")]) := by decide
  have succeeded := bareTree_into_schemas
  unfold schemasWritten
  rw [run_eq_outcome asked] at succeeded ⊢
  obtain ⟨_, _, _, _, written⟩ := built_of_exit_zero succeeded
  exact (rewrites_of_written (regular_bareTree.plain rfl) written).after

/-- The documents among the schemas, of which the first is no schema document. -/
theorem search_schemasWritten :
    location? schemasWritten "schemas" = some ["schemas"] ∧
      (match schemasWritten.at? ["schemas"] with
        | some (.directory entries) => searchEntries (searchLink schemasWritten
            (schemasWritten.size + 1)) [["schemas"]] "schemas" ["schemas"] entries
        | _ => []) = [("resources.tf", .ok []), ("data_sources.tf", .ok []),
          ("resources.json", .ok ["schemas/resources.json"]),
          ("data_sources.json", .ok ["schemas/data_sources.json"])] ∧
      pathExists schemasWritten "schemas" = true ∧
      (loadProvider schemasWritten "schemas/data_sources.json").isOk = false ∧
      settingsFile? schemasWritten [(.output, "schemas")] = none := by decide +kernel

theorem documentFiles_schemasWritten :
    documentFiles schemasWritten "schemas" =
      .ok ["schemas/data_sources.json", "schemas/resources.json"] := by
  obtain ⟨located, searched, _⟩ := search_schemasWritten
  obtain ⟨entry, resolved⟩ := (location?_eq_some_iff _ _ _).mp located
  rw [at?_of_resolve plain_schemasWritten resolved] at searched
  cases entry with
  | file contents => cases searched
  | link target => cases searched
  | directory entries =>
      -- Sorting does not reduce, so that the evaluation stops at the list that is sorted.
      unfold documentFiles
      rw [resolved]
      simp only at searched ⊢
      rw [searched]
      simp [collect, Entry.sortByName, List.mergeSort, bind, Except.bind, pure, Except.pure]

theorem generateThenCheck_among_schemas :
    generateThenCheck bareTree ["--output", "schemas"] = (0, 4) := by
  have asked : readArguments [] ["check", "--output", "schemas"] =
      some (.run .check [(.output, "schemas")]) := by decide
  obtain ⟨_, _, present, malformed, noFile⟩ := search_schemasWritten
  have unloaded : ¬ Succeeds (loadRegistry schemasWritten "schemas") := by
    rintro ⟨registry, done⟩
    unfold loadRegistry at done
    rw [if_pos present, documentFiles_schemasWritten] at done
    obtain ⟨document, loaded, _⟩ := bind_eq_ok_iff.mp done
    rw [loaded] at malformed
    cases malformed
  have failed : (run schemasWritten [] ["check", "--output", "schemas"]).exit = 4 := by
    rw [run_eq_outcome asked]
    exact exit_check_of_ends (.stopped (.schemas (.defaults noFile) unloaded))
  exact Prod.ext bareTree_into_schemas failed

def moduleAtArtifact : FileTree :=
  linkProject "out" (.directory [("resources.tf", .file linkModule.toUTF8)])

def settingsAtArtifact : FileTree := .directory [
  ("schemas", .directory []), ("modules", .directory []),
  ("out", .directory [("resources.json", .file
    "schemas: ../schemas\nmodules: ../modules\noutput: .".toUTF8)])]

end Stanza.Command
