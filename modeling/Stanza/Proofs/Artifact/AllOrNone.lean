import Mathlib.Data.List.Nodup
import Stanza.Proofs.Artifact.Checking
import Stanza.Proofs.Files.Directories

set_option autoImplicit false

/-!
Writing artifacts changes all that differ or none. Whatever fails, on a disk with any
faults, every artifact path stays as it was once the missing directories above it had been
made; and a staging write that fails leaves no staging file.
-/

namespace Stanza.Files

/-! ### Comparing -/

theorem compareArtifact_ok {disk : Disk} {tree : FileTree} {directory : String}
    {artifact : Artifact} {status : ArtifactStatus} (plain : Plain tree)
    (relative : isAbsolute directory = false) (named : artifact.WellNamed)
    (compared : compareArtifact disk tree directory artifact = .ok status) :
    pathError? (artifactPath directory artifact) = none ∧
      state tree (artifactPath directory artifact) ≠ .directory ∧
      (status = .unchanged → Written tree directory artifact) := by
  have ends := endsInName_artifactPath directory named
  unfold compareArtifact at compared
  cases done : disk.read tree (artifactPath directory artifact) with
  | ok contents =>
      rw [done] at compared
      have file := (read_eq_ok_iff _ _ _).mp (Disk.read_ok done)
      refine ⟨?_, by simp [file], ?_⟩
      · cases refused : pathError? (artifactPath directory artifact) with
        | none => rfl
        | some error => cases (read_of_pathError refused).symm.trans (Disk.read_ok done)
      · rintro rfl
        unfold Written
        rw [file]
        by_cases same : contents.data = artifact.contents.toUTF8.data
        · rw [ByteArray.ext same]
        · simp only [if_neg same] at compared
          cases compared
  | error error =>
      rw [done] at compared
      cases error with
      | notFound =>
          have missing := Disk.read_notFound done
          have absent := state_of_read_notFound plain ends missing
          refine ⟨?_, by simp [absent], ?_⟩
          · cases refused : pathError? (artifactPath directory artifact) with
            | none => rfl
            | some error =>
                cases (read_of_pathError refused).symm.trans missing
                exact absurd refused (pathError?_ne_notFound
                  (join_ne_empty directory named.ofArtifact)
                  (isAbsolute_join named.ofArtifact relative))
          · rintro rfl
            cases compared
      | _ => cases compared

theorem compareArtifacts_ok {disk : Disk} {tree : FileTree} {directory : String}
    {artifacts : List Artifact} {compared : List (Artifact × ArtifactStatus)}
    (done : compareArtifacts disk tree directory artifacts = .ok compared) :
    compared.map Prod.fst = artifacts ∧
      ∀ artifact status, (artifact, status) ∈ compared →
        compareArtifact disk tree directory artifact = .ok status := by
  have pairs := (compareArtifacts_eq_ok_iff _ _ _ _ _).mp done
  constructor
  · have same : List.Forall₂ (· = ·) artifacts (compared.map Prod.fst) :=
      List.forall₂_map_right_iff.mpr (pairs.imp fun _ _ pair => pair.1)
    rw [List.forall₂_eq_eq_eq] at same
    exact same.symm
  · intro artifact status member
    obtain ⟨_, _, _, here⟩ := exists_left_of_mem pairs member
    exact here

theorem changedArtifacts_sublist (compared : List (Artifact × ArtifactStatus)) :
    (changedArtifacts compared).Sublist (compared.map Prod.fst) := by
  unfold changedArtifacts
  exact List.filter_sublist.map Prod.fst

theorem mem_changedArtifacts {compared : List (Artifact × ArtifactStatus)} {artifact : Artifact} :
    artifact ∈ changedArtifacts compared ↔
      ∃ status, (artifact, status) ∈ compared ∧ status.isChanged = true := by
  unfold changedArtifacts
  simp

/-! ### Committing -/

theorem commit_cases (disk : Disk) {directory : String} {tree : FileTree}
    {changed : List Artifact} (plain : Plain tree) (named : WellNamed changed)
    (clear : ∀ artifact ∈ changed, pathError? (artifactPath directory artifact) = none ∧
      state tree (artifactPath directory artifact) ≠ .directory) :
    (∃ next, commit disk directory tree changed = (next, .ok ()) ∧
        Settled directory changed tree next) ∨
      ∃ next error, commit disk directory tree changed = (next, .error error) ∧
        FilesDiffer (stagingPaths directory changed) tree next := by
  unfold commit
  cases ran : stage disk directory [] tree changed with
  | mk mid result =>
      cases result with
      | error error =>
          refine .inr ⟨mid, error, rfl, ?_⟩
          obtain ⟨front, failing, back, before, stored, rfl, staged, refused⟩ := stage_error ran
          cases ran.symm.trans (stage_refused staged refused)
          apply (stage_cleared plain named staged refused).1.mono
          apply List.map_subset
          intro artifact member
          simp only [List.mem_append, List.mem_singleton] at member
          rcases member with early | rfl
          · exact List.mem_append_left _ early
          · exact List.mem_append_right _ List.mem_cons_self
      | ok done =>
          have differ := (stage_ok plain named ran).1
          obtain ⟨next, ran, settled⟩ := settle_ready (differ.plain plain) named
            fun artifact member => ready_of_stage plain named clear ran member
          refine .inl ⟨next, ran, (differ.trans settled.differ).mono ?_, settled.written,
            settled.gone⟩
          intro path member
          rcases List.mem_append.mp member with early | late
          · obtain ⟨artifact, inside, rfl⟩ := List.mem_map.mp early
            exact List.mem_flatMap.mpr ⟨artifact, inside, by simp⟩
          · exact late

def SamePlaces (directory : String) (artifacts : List Artifact) (before after : FileTree) : Prop :=
  ∀ artifact ∈ artifacts, state after (artifactPath directory artifact) =
    state before (artifactPath directory artifact)

theorem unchanged_of_not_mem {disk : Disk} {tree : FileTree} {directory : String}
    {artifacts : List Artifact} {compared : List (Artifact × ArtifactStatus)}
    (named : WellNamed artifacts)
    (done : compareArtifacts disk tree directory artifacts = .ok compared) {artifact : Artifact}
    (member : artifact ∈ artifacts) (same : artifact ∉ changedArtifacts compared) :
    compareArtifact disk tree directory artifact = .ok .unchanged ∧
      ∀ other ∈ changedArtifacts compared, artifact.name ≠ other.name := by
  obtain ⟨firsts, each⟩ := compareArtifacts_ok done
  obtain ⟨status, inside⟩ : ∃ status, (artifact, status) ∈ compared := by
    rw [← firsts] at member
    simpa using member
  constructor
  · cases status with
    | unchanged => exact each artifact .unchanged inside
    | created => exact absurd (mem_changedArtifacts.mpr ⟨_, inside, rfl⟩) same
    | updated => exact absurd (mem_changedArtifacts.mpr ⟨_, inside, rfl⟩) same
  · intro other changed sameName
    have some_of := changedArtifacts_sublist compared
    rw [firsts] at some_of
    have sameArtifact :=
      List.inj_on_of_nodup_map named.distinct member (some_of.subset changed) sameName
    exact same (sameArtifact ▸ changed)

theorem wellNamed_changed {disk : Disk} {tree : FileTree} {directory : String}
    {artifacts : List Artifact} {compared : List (Artifact × ArtifactStatus)}
    (named : WellNamed artifacts)
    (done : compareArtifacts disk tree directory artifacts = .ok compared) :
    WellNamed (changedArtifacts compared) := by
  apply named.sublist
  have some_of := changedArtifacts_sublist compared
  rwa [(compareArtifacts_ok done).1] at some_of

theorem clear_of_compared {disk : Disk} {tree : FileTree} {directory : String}
    {artifacts : List Artifact} {compared : List (Artifact × ArtifactStatus)} (plain : Plain tree)
    (relative : isAbsolute directory = false) (named : WellNamed artifacts)
    (done : compareArtifacts disk tree directory artifacts = .ok compared) :
    ∀ artifact ∈ changedArtifacts compared,
      pathError? (artifactPath directory artifact) = none ∧
        state tree (artifactPath directory artifact) ≠ .directory := by
  intro artifact member
  obtain ⟨status, inside, _⟩ := mem_changedArtifacts.mp member
  obtain ⟨noError, noDirectory, _⟩ :=
    compareArtifact_ok plain relative ((wellNamed_changed named done).each artifact member)
      ((compareArtifacts_ok done).2 artifact status inside)
  exact ⟨noError, noDirectory⟩

/-- Committing what differs writes every artifact, or leaves every place as it was. -/
theorem commit_compared {disk : Disk} {tree : FileTree} {directory : String}
    {artifacts : List Artifact} {compared : List (Artifact × ArtifactStatus)} (plain : Plain tree)
    (relative : isAbsolute directory = false) (named : WellNamed artifacts)
    (done : compareArtifacts disk tree directory artifacts = .ok compared) :
    (∃ after, commit disk directory tree (changedArtifacts compared) = (after, .ok ()) ∧
        ∀ artifact ∈ artifacts, Written after directory artifact) ∨
      ∃ after error, commit disk directory tree (changedArtifacts compared) =
        (after, .error error) ∧ SamePlaces directory artifacts tree after := by
  have changedNamed := wellNamed_changed named done
  have clear := clear_of_compared plain relative named done
  rcases commit_cases disk plain changedNamed clear with
    ⟨after, committed, settled⟩ | ⟨after, error, failed, differ⟩
  · refine .inl ⟨after, committed, ?_⟩
    intro artifact member
    by_cases changed : artifact ∈ changedArtifacts compared
    · exact settled.written artifact changed
    · have here := named.each artifact member
      obtain ⟨unchanged, apart⟩ := unchanged_of_not_mem named done member changed
      have before := (compareArtifact_ok plain relative here unchanged).2.2 rfl
      exact (states_of_moved _ plain here changedNamed.each apart settled.differ).2.trans before
  · refine .inr ⟨after, error, failed, ?_⟩
    intro artifact member
    exact state_artifactPath_of_staging plain changedNamed.each differ (named.each artifact member)

/-! ### Writing -/

theorem wellNamed_artifacts (output : ProjectOutput) : WellNamed output.artifacts := by
  refine ⟨?_, by simp [ProjectOutput.artifacts]⟩
  intro artifact member
  have cases : artifact.name = "resources.tf" ∨ artifact.name = "data_sources.tf" ∨
      artifact.name = "resources.json" ∨ artifact.name = "data_sources.json" := by
    have names := List.mem_map_of_mem (f := Artifact.name) member
    simpa [ProjectOutput.artifacts] using names
  refine ⟨?_, ?_, ?_⟩
  · rcases cases with same | same | same | same <;> rw [same] <;> exact isName_of (by decide)
  · unfold Artifact.stagingName
    rcases cases with same | same | same | same <;> rw [same] <;> exact isName_of (by decide)
  · rcases cases with same | same | same | same <;> rw [same] <;> decide

theorem relative_of_makeDirectories {disk : Disk} {tree made : FileTree} {directory : String}
    (done : disk.makeDirectories tree directory = (made, .ok ())) :
    isAbsolute directory = false := by
  unfold Disk.makeDirectories at done
  cases absolute : isAbsolute directory with
  | false => rfl
  | true =>
      rw [absolute] at done
      cases done

/-- Writing succeeds when each of its stages does, and reports what the comparison found. -/
theorem writeArtifactsOn_eq_ok_iff (disk : Disk) (tree next : FileTree) (directory : String)
    (output : ProjectOutput) (result : Report) :
    writeArtifactsOn disk tree directory output = (next, .ok result) ↔
      ∃ made compared, disk.makeDirectories tree directory = (made, .ok ()) ∧
        compareArtifacts disk made directory output.artifacts = .ok compared ∧
        commit disk directory made (changedArtifacts compared) = (next, .ok ()) ∧
        report directory compared true = result := by
  constructor
  · intro done
    unfold writeArtifactsOn at done
    cases making : disk.makeDirectories tree directory with
    | mk made outcome =>
        rw [making] at done
        cases outcome with
        | error error => cases done
        | ok _ =>
            cases comparing : compareArtifacts disk made directory output.artifacts with
            | error error =>
                simp only [comparing] at done
                cases done
            | ok compared =>
                simp only [comparing] at done
                cases committing : commit disk directory made (changedArtifacts compared) with
                | mk after outcome =>
                    rw [committing] at done
                    cases outcome with
                    | error error => cases done
                    | ok _ =>
                        cases done
                        exact ⟨made, compared, rfl, comparing, committing, rfl⟩
  · rintro ⟨made, compared, making, comparing, committing, rfl⟩
    unfold writeArtifactsOn
    simp only [making, comparing, committing]

/-- The staging write of an artifact fails, after those of the changed artifacts before it. -/
structure StagingFails (disk : Disk) (tree : FileTree) (directory : String)
    (output : ProjectOutput) (front : List Artifact) (failing : Artifact) (error : FileError) :
    Prop where
  made : (disk.makeDirectories tree directory).2 = .ok ()
  changed : ∃ compared back,
    compareArtifacts disk (disk.makeDirectories tree directory).1 directory output.artifacts =
        .ok compared ∧
      changedArtifacts compared = front ++ failing :: back
  staged : (stage disk directory [] (disk.makeDirectories tree directory).1 front).2 = .ok ()
  refused : (disk.write (stage disk directory [] (disk.makeDirectories tree directory).1 front).1
    (stagingPath directory failing) failing.contents.toUTF8).2 = .error error

theorem writeArtifactsOn_cases (disk : Disk) {tree : FileTree} (directory : String)
    (output : ProjectOutput) (plain : Plain tree) :
    (∃ after report, writeArtifactsOn disk tree directory output = (after, .ok report) ∧
        ∀ artifact ∈ output.artifacts, Written after directory artifact) ∨
      ∃ after error, writeArtifactsOn disk tree directory output = (after, .error error) ∧
        SamePlaces directory output.artifacts (disk.makeDirectories tree directory).1 after := by
  have named := wellNamed_artifacts output
  have grows := disk.grows_makeDirectories plain directory
  unfold writeArtifactsOn
  generalize output.artifacts = artifacts at named
  cases making : disk.makeDirectories tree directory with
  | mk made result =>
      rw [making] at grows
      cases result with
      | error error => exact .inr ⟨made, error, rfl, fun _ _ => rfl⟩
      | ok done =>
          cases comparing : compareArtifacts disk made directory artifacts with
          | error error => exact .inr ⟨made, error, by simp only [comparing], fun _ _ => rfl⟩
          | ok compared =>
              rcases commit_compared grows.plain (relative_of_makeDirectories making) named
                comparing with ⟨after, committed, written⟩ | ⟨after, error, failed, same⟩
              · exact .inl ⟨after, report directory compared true, by simp only [comparing, committed],
                  written⟩
              · exact .inr ⟨after, error, by simp only [comparing, failed], same⟩

/-- A failing staging write is what writing fails with, and its staging files are gone. -/
theorem writeArtifactsOn_of_stagingFails {disk : Disk} {tree : FileTree} {directory : String}
    {output : ProjectOutput} {front : List Artifact} {failing : Artifact} {error : FileError}
    (plain : Plain tree) (fails : StagingFails disk tree directory output front failing error) :
    ∃ after, writeArtifactsOn disk tree directory output = (after, .error error) ∧
      ∀ artifact ∈ front ++ [failing], NoFile after (stagingPath directory artifact) := by
  have named := wellNamed_artifacts output
  have grows := disk.grows_makeDirectories plain directory
  obtain ⟨isMade, ⟨compared, back, comparedAll, changed⟩, isStaged, refused⟩ := fails
  cases making : disk.makeDirectories tree directory with
  | mk made result =>
      rw [making] at isMade isStaged refused grows comparedAll
      cases isMade
      cases staging : stage disk directory [] made front with
      | mk mid result =>
          rw [staging] at isStaged refused
          cases isStaged
          cases writing : disk.write mid (stagingPath directory failing)
              failing.contents.toUTF8 with
          | mk stored result =>
              rw [writing] at refused
              cases refused
              have some_of := changedArtifacts_sublist compared
              rw [(compareArtifacts_ok comparedAll).1, changed] at some_of
              have cleared := stage_cleared grows.plain (named.sublist some_of) staging writing
              refine ⟨_, ?_, cleared.2⟩
              unfold writeArtifactsOn commit
              simp only [making, comparedAll, changed, stage_refused staging writing]

def fullDisk : Disk :=
  { Disk.sound with
    writeFault? := fun _ path =>
      if path = "out/.resources.json.tmp" then some ⟨.noSpace, some 1⟩ else none }

def emptyOutput : ProjectOutput := ⟨"", "", ∅, ∅⟩

end Stanza.Files
