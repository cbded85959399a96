import Stanza.Proofs.Artifact.Rewriting

set_option autoImplicit false

/-!
Checking and writing tell the same, and writing converges. A check foretells what a write
reports, and after the write it finds every artifact unchanged. The write itself makes the
missing directories on its way, and then works in the places of the artifacts that it reports
as changed and of their staging files, which are gone in the end. Nothing else is touched.
-/

namespace Stanza

/-! ### Reports -/

/-- The same report of a run that only compared. -/
def Report.dry (report : Report) : Report := { report with written := false }

theorem Report.changed_eq (directory : String) (compared : List (Artifact × ArtifactStatus))
    (written : Bool) : (Files.report directory compared written).changed =
      (Files.changedArtifacts compared).map Artifact.name := by
  simp [Report.changed, Files.report, Files.changedArtifacts, List.filter_map,
    Function.comp_def]

namespace Files

section Compared

variable {disk : Disk} {tree : FileTree} {directory : String} {artifacts : List Artifact}
  {compared : List (Artifact × ArtifactStatus)} {artifact : Artifact}

theorem mem_report_changed_iff (named : WellNamed artifacts)
    (done : compareArtifacts disk tree directory artifacts = .ok compared)
    (member : artifact ∈ artifacts) (written : Bool) :
    artifact.name ∈ (report directory compared written).changed ↔
      artifact ∈ changedArtifacts compared := by
  rw [Report.changed_eq]
  constructor
  · intro inside
    by_contra same
    obtain ⟨other, changed, sameName⟩ := List.mem_map.mp inside
    exact (unchanged_of_not_mem named done member same).2 other changed sameName.symm
  · exact List.mem_map_of_mem

theorem status?_report (named : WellNamed artifacts)
    (done : compareArtifacts disk tree directory artifacts = .ok compared)
    {status : ArtifactStatus} (member : (artifact, status) ∈ compared) (written : Bool) :
    (report directory compared written).status? artifact.name = some status := by
  have distinct := named.distinct
  rw [← (compareArtifacts_ok done).1, List.map_map] at distinct
  have keys : ((report directory compared written).entries.map Prod.fst).Nodup := by
    rwa [report, List.map_map]
  exact (findValue?_eq_some_iff keys).mpr (List.mem_map_of_mem member)

theorem not_mem_changed_of_unchanged (named : WellNamed artifacts)
    (done : compareArtifacts disk tree directory artifacts = .ok compared) {written : Bool}
    (told : (report directory compared written).status? artifact.name = some .unchanged) :
    artifact ∉ changedArtifacts compared := by
  intro inside
  obtain ⟨status, member, changed⟩ := mem_changedArtifacts.mp inside
  rw [status?_report named done member] at told
  cases told
  cases changed

end Compared

/-! ### One run for both -/

/-- Compares the artifacts of a project, and commits those that differ if it is to write. -/
def process (write : Bool) (tree : FileTree) (directory : String) (output : ProjectOutput) :
    FileTree × Except FileError Report :=
  match compareArtifacts .sound tree directory output.artifacts with
  | .error error => (tree, .error error)
  | .ok compared =>
      if write then
        match commit .sound directory tree (changedArtifacts compared) with
        | (next, .ok ()) => (next, .ok (report directory compared true))
        | (next, .error error) => (next, .error error)
      else (tree, .ok (report directory compared false))

theorem process_check (tree : FileTree) (directory : String) (output : ProjectOutput) :
    process false tree directory output = (tree, checkArtifacts tree directory output) := by
  unfold process checkArtifacts
  cases compareArtifacts .sound tree directory output.artifacts <;> rfl

theorem writeArtifacts_of_made {tree made : FileTree} {directory : String}
    (making : makeDirectories tree directory = (made, .ok ())) (output : ProjectOutput) :
    writeArtifacts tree directory output = process true made directory output := by
  unfold makeDirectories at making
  unfold writeArtifacts writeArtifactsOn process
  rw [making]
  dsimp only
  cases compareArtifacts .sound made directory output.artifacts with
  | error error => rfl
  | ok compared =>
      cases commit .sound directory made (changedArtifacts compared) with
      | mk next result => cases result <;> rfl

theorem checkArtifacts_of_compared {tree : FileTree} {directory : String}
    {output : ProjectOutput} {compared : List (Artifact × ArtifactStatus)}
    (done : compareArtifacts .sound tree directory output.artifacts = .ok compared) :
    checkArtifacts tree directory output = .ok (report directory compared true).dry := by
  unfold checkArtifacts
  rw [done]
  rfl

/-! ### Directories that are there -/

theorem makeDirectories_of_existing {tree : FileTree} (plain : Plain tree) {path : String}
    (existing : path = "" ∨ isDirectory tree path = true) :
    makeDirectories tree path = (tree, .ok ()) := by
  rcases existing with rfl | isThere
  · rfl
  · unfold isDirectory lookup at isThere
    cases resolved : resolve tree true path with
    | error error =>
        rw [resolved] at isThere
        cases isThere
    | ok target =>
        rw [resolved] at isThere
        cases target with
        | absent directory name => cases isThere
        | present position entry =>
            cases entry with
            | file contents => cases isThere
            | link target => cases isThere
            | directory entries =>
                have noError := ((resolve_eq_ok_iff plain true path _).mp resolved).1
                exact makeDirectories_of_directory plain (.inr noError)
                  (directoryAt?_of_resolve plain resolved)

/-! ### Writes that are made -/

/-- A disk on which nothing fails but writes. -/
def failingWrites (faults : FileTree → String → Option WriteFault) : Disk :=
  { Disk.sound with writeFault? := faults }

section Faults

variable {faults : FileTree → String → Option WriteFault} {directory : String}
  {todo : List Artifact}

theorem stage_failingWrites (spared : ∀ tree, ∀ artifact ∈ todo,
      faults tree (stagingPath directory artifact) = none) (staged : List Artifact)
    (tree : FileTree) :
    stage (failingWrites faults) directory staged tree todo =
      stage .sound directory staged tree todo := by
  induction todo generalizing staged tree with
  | nil => rfl
  | cons artifact rest ih =>
      have same : (failingWrites faults).write tree (stagingPath directory artifact)
          artifact.contents.toUTF8 = Disk.sound.write tree (stagingPath directory artifact)
            artifact.contents.toUTF8 := by
        have noFault : (failingWrites faults).writeFault? tree (stagingPath directory artifact) =
            none := spared tree artifact List.mem_cons_self
        unfold Disk.write
        rw [noFault]
        rfl
      have later := ih fun tree other member => spared tree other (List.mem_cons_of_mem _ member)
      rw [stage, stage, same]
      simp only [later]

theorem commit_failingWrites (spared : ∀ tree, ∀ artifact ∈ todo,
      faults tree (stagingPath directory artifact) = none) (tree : FileTree) :
    commit (failingWrites faults) directory tree todo = commit .sound directory tree todo := by
  unfold commit
  rw [stage_failingWrites spared]

end Faults

theorem makeDirectories_failingWrites (faults : FileTree → String → Option WriteFault)
    (tree : FileTree) (path : String) :
    (failingWrites faults).makeDirectories tree path = makeDirectories tree path := by
  have one : (failingWrites faults).makeDirectory = Disk.sound.makeDirectory := rfl
  have ensured : (failingWrites faults).ensureDirectory = Disk.sound.ensureDirectory := rfl
  have upward (depth : Nat) (tree : FileTree) (path : String) :
      (failingWrites faults).makeDirectoriesFrom tree path depth =
        Disk.sound.makeDirectoriesFrom tree path depth := by
    induction depth generalizing tree path with
    | zero => rfl
    | succ depth ih => rw [Disk.makeDirectoriesFrom, Disk.makeDirectoriesFrom, one, ensured, ih]
  unfold makeDirectories Disk.makeDirectories
  rw [upward]

/-! ### Places -/

/-- The place of an artifact, or that of its staging file. -/
def Occupies (tree : FileTree) (directory : String) (artifact : Artifact)
    (position : Position) : Prop :=
  position? tree (artifactPath directory artifact) = some position ∨
    position? tree (stagingPath directory artifact) = some position

theorem Occupies.name_eq {tree : FileTree} {directory : String} {left right : Artifact}
    {position : Position} (here : Occupies tree directory left position)
    (there : Occupies tree directory right position) (leftNamed : left.WellNamed)
    (rightNamed : right.WellNamed) : left.name = right.name := by
  by_contra different
  rcases here with leftPlace | leftStaging
  · rcases there with rightPlace | rightStaging
    · exact apart_artifact_artifact tree directory leftNamed rightNamed different position
        leftPlace rightPlace
    · exact apart_staging_artifact tree directory rightNamed leftNamed position rightStaging
        leftPlace
  · rcases there with rightPlace | rightStaging
    · exact apart_staging_artifact tree directory leftNamed rightNamed position leftStaging
        rightPlace
    · exact apart_staging_staging tree directory leftNamed rightNamed different position
        leftStaging rightStaging

/-! ### What a write does -/

/-- What holds when a write has succeeded with a report. -/
structure Converges (tree next : FileTree) (directory : String) (output : ProjectOutput)
    (report : Report) : Prop where
  foretold : directory = "" ∨ isDirectory tree directory = true →
    process false tree directory output = (tree, .ok report.dry)
  foretoldOnceMade :
    checkArtifacts (makeDirectories tree directory).1 directory output = .ok report.dry
  checked : process false next directory output = (next, .ok (unchangedReport directory).dry)
  rewritten : writeArtifacts next directory output = (next, .ok (unchangedReport directory))
  /-- Directories that were missing come on the way to the output directory. -/
  elsewhere : ∀ position, stateAt next position ≠ stateAt tree position →
    (stateAt tree position = .absent ∧ stateAt next position = .directory ∧
        OnTheWay (names directory) next position) ∨
      ∃ artifact ∈ output.artifacts, artifact.name ∈ report.changed ∧
        Occupies next directory artifact position
  cleared : ∀ artifact ∈ output.artifacts, artifact.name ∈ report.changed →
    state next (stagingPath directory artifact) = .absent
  untouched : ∀ artifact ∈ output.artifacts, report.status? artifact.name = some .unchanged →
    ∀ position,
      (position? next (artifactPath directory artifact) = some position →
        stateAt tree position = .file artifact.contents.toUTF8 ∧
          stateAt next position = stateAt tree position) ∧
      (position? next (stagingPath directory artifact) = some position →
        stateAt tree position ≠ .absent → stateAt next position = stateAt tree position)
  /-- Nothing is written under any name but the staging names of the changed artifacts. -/
  spared : ∀ faults, (∀ tree, ∀ artifact ∈ output.artifacts, artifact.name ∈ report.changed →
      faults tree (stagingPath directory artifact) = none) →
    writeArtifactsOn (failingWrites faults) tree directory output = (next, .ok report)

namespace WriteRun

variable {tree made next : FileTree} {directory : String} {output : ProjectOutput}
  {compared : List (Artifact × ArtifactStatus)}

theorem written (run : WriteRun tree made next directory output compared) :
    ∀ artifact ∈ output.artifacts, Written next directory artifact :=
  written_of_ok run.plain ((writeArtifactsOn_eq_ok_iff .sound _ _ _ _ _).mpr
    ⟨made, compared, run.making, run.comparing, run.committing, rfl⟩)

theorem nextPlain (run : WriteRun tree made next directory output compared) : Plain next :=
  run.settled.differ.plain run.grows.plain

theorem mem_changed_iff (run : WriteRun tree made next directory output compared)
    {artifact : Artifact} (member : artifact ∈ output.artifacts) :
    artifact.name ∈ (report directory compared true).changed ↔
      artifact ∈ changedArtifacts compared :=
  mem_report_changed_iff (wellNamed_artifacts output) run.comparing member true

/-- What changes is a directory on the way, or it is in the place of a changed artifact. -/
theorem changes (run : WriteRun tree made next directory output compared) {position : Position}
    (changed : stateAt next position ≠ stateAt tree position) :
    (stateAt tree position = .absent ∧ stateAt next position = .directory ∧
        OnTheWay (names directory) next position) ∨
      ∃ artifact ∈ changedArtifacts compared, Occupies next directory artifact position := by
  have differ := run.settled.differ
  by_cases occupied : ∃ artifact ∈ changedArtifacts compared,
      Occupies next directory artifact position
  · exact .inr occupied
  · have same : stateAt next position = stateAt made position := by
      apply differ.elsewhere
      intro path member here
      obtain ⟨artifact, inside, isPath⟩ := List.mem_flatMap.mp member
      rw [← differ.position?_eq] at here
      rcases List.mem_pair.mp isPath with rfl | rfl
      · exact occupied ⟨artifact, inside, .inl here⟩
      · exact occupied ⟨artifact, inside, .inr here⟩
    rw [same] at changed ⊢
    obtain ⟨front, part, reached⟩ := run.grows.made position changed
    refine .inl ⟨?_, stateAt_directoryAt? run.grows.plain.root reached, front, part, ?_⟩
    · by_contra present
      exact changed (run.grows.kept position present)
    · rw [directoryAt?_congr differ.directories, reached]

/-- In the places of an unchanged artifact nothing changes but that a directory may come. -/
theorem unchanged_places (run : WriteRun tree made next directory output compared)
    {artifact : Artifact} (member : artifact ∈ output.artifacts)
    (told : (report directory compared true).status? artifact.name = some .unchanged)
    {position : Position} (here : Occupies next directory artifact position) :
    stateAt next position = stateAt tree position ∨
      stateAt tree position = .absent ∧ stateAt next position = .directory := by
  have named := wellNamed_artifacts output
  have fresh := not_mem_changed_of_unchanged named run.comparing told
  by_cases same : stateAt next position = stateAt tree position
  · exact .inl same
  · rcases run.changes same with ⟨absent, isDirectory, _⟩ | ⟨other, changed, there⟩
    · exact .inr ⟨absent, isDirectory⟩
    · have apart := (unchanged_of_not_mem named run.comparing member fresh).2 other changed
      exact absurd (here.name_eq there (named.each _ member)
        (named.each _ (run.mem_artifacts changed))) apart

theorem untouched (run : WriteRun tree made next directory output compared)
    {artifact : Artifact} (member : artifact ∈ output.artifacts)
    (told : (report directory compared true).status? artifact.name = some .unchanged)
    {position : Position}
    (found : position? next (artifactPath directory artifact) = some position) :
    stateAt tree position = .file artifact.contents.toUTF8 ∧
      stateAt next position = stateAt tree position := by
  have ends := endsInName_artifactPath directory ((wellNamed_artifacts output).each _ member)
  have isFile : stateAt next position = .file artifact.contents.toUTF8 := by
    rw [← state_eq_stateAt run.nextPlain ends found]
    exact run.written artifact member
  rcases run.unchanged_places member told (.inl found) with same | ⟨_, isDirectory⟩
  · exact ⟨same ▸ isFile, same⟩
  · cases isFile.symm.trans isDirectory

theorem spared (run : WriteRun tree made next directory output compared)
    {faults : FileTree → String → Option WriteFault}
    (noFault : ∀ tree, ∀ artifact ∈ changedArtifacts compared,
      faults tree (stagingPath directory artifact) = none) :
    writeArtifactsOn (failingWrites faults) tree directory output =
      (next, .ok (report directory compared true)) := by
  refine (writeArtifactsOn_eq_ok_iff _ _ _ _ _ _).mpr ⟨made, compared, ?_, ?_, ?_, rfl⟩
  · rw [makeDirectories_failingWrites, run.making]
  · exact run.comparing
  · rw [commit_failingWrites noFault, run.committing]

theorem converges (run : WriteRun tree made next directory output compared) :
    Converges tree next directory output (report directory compared true) where
  foretold existing := by
    have same : tree = made := by
      cases (makeDirectories_of_existing run.plain existing).symm.trans run.making
      rfl
    rw [process_check, same, checkArtifacts_of_compared run.comparing]
  foretoldOnceMade := by rw [run.making, checkArtifacts_of_compared run.comparing]
  checked := by
    rw [process_check, checkArtifacts_of_compared (compareArtifacts_of_written run.written)]
    rfl
  rewritten := writeArtifacts_of_written run.nextPlain run.written
  elsewhere position changed := by
    rcases run.changes changed with onTheWay | ⟨artifact, inside, here⟩
    · exact .inl onTheWay
    · have member := run.mem_artifacts inside
      exact .inr ⟨artifact, member, (run.mem_changed_iff member).mpr inside, here⟩
  cleared artifact member changed :=
    run.settled.gone artifact ((run.mem_changed_iff member).mp changed)
  untouched artifact member told position := by
    refine ⟨run.untouched member told, ?_⟩
    intro found present
    rcases run.unchanged_places member told (.inr found) with same | ⟨absent, _⟩
    · exact same
    · exact absurd absent present
  spared faults noFault := by
    apply run.spared
    intro tree artifact inside
    have member := run.mem_artifacts inside
    exact noFault tree artifact member ((run.mem_changed_iff member).mpr inside)

end WriteRun

/-- One artifact is up to date, one is stale, and two are missing. Two staging files are left
over, that of the artifact that is up to date and one of those that is missing. -/
def staleTree : FileTree :=
  .directory [("out", .directory [("resources.tf", .file "".toUTF8),
    (".resources.tf.tmp", .file "left".toUTF8), ("data_sources.tf", .file "old".toUTF8),
    (".resources.json.tmp", .file "left".toUTF8)])]

theorem regular_staleTree : Regular staleTree :=
  .cons (isName_of (by decide))
    (.cons (isName_of (by decide)) (.file _) (.cons (isName_of (by decide)) (.file _)
      (.cons (isName_of (by decide)) (.file _) (.cons (isName_of (by decide)) (.file _) .empty))))
    .empty

def staleReport : Report where
  directory := "out"
  entries := [("resources.tf", .unchanged), ("data_sources.tf", .updated),
    ("resources.json", .created), ("data_sources.json", .created)]
  written := true

theorem writeArtifacts_staleTree :
    (writeArtifacts staleTree "out" emptyOutput).2 = .ok staleReport ∧
      stateAt (writeArtifacts staleTree "out" emptyOutput).1 ["out", ".resources.tf.tmp"] =
        .file "left".toUTF8 ∧
      stateAt (writeArtifacts staleTree "out" emptyOutput).1 ["out", ".resources.json.tmp"] =
        .absent := by decide +kernel

end Files
end Stanza
