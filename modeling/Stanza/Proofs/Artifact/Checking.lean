import Stanza.Proofs.Artifact.Staging
import Stanza.Proofs.Outcome

set_option autoImplicit false

/-!
Comparing artifacts with the files that are there. A comparison fails when the file of an
artifact is there and cannot be read, and an artifact is up to date when its file holds its
contents.
-/

namespace Stanza.Files

/-- The file of an artifact can be read, or there is none. -/
def Comparable (tree : FileTree) (directory : String) (artifact : Artifact) : Prop :=
  ∀ error, read tree (artifactPath directory artifact) = .error error → error = .notFound

theorem comparable_of_written {tree : FileTree} {directory : String} {artifact : Artifact}
    (written : Written tree directory artifact) : Comparable tree directory artifact := by
  intro error failed
  cases ((read_eq_ok_iff _ _ _).mpr written).symm.trans failed

theorem succeeds_compareArtifact_iff (tree : FileTree) (directory : String)
    (artifact : Artifact) : Succeeds (compareArtifact .sound tree directory artifact) ↔
      Comparable tree directory artifact := by
  have sound : Disk.sound.read tree = read tree := rfl
  unfold compareArtifact Comparable
  rw [sound]
  cases read tree (artifactPath directory artifact) with
  | ok contents => simp
  | error error => cases error <;> simp

theorem compareArtifact_unchanged_iff (tree : FileTree) (directory : String)
    (artifact : Artifact) : compareArtifact .sound tree directory artifact = .ok .unchanged ↔
      Written tree directory artifact := by
  have sound : Disk.sound.read tree = read tree := rfl
  unfold compareArtifact Written
  rw [sound, ← read_eq_ok_iff]
  cases read tree (artifactPath directory artifact) with
  | ok contents =>
      simp [ByteArray.ext_iff]
  | error error => cases error <;> simp

theorem compareArtifacts_eq_ok_iff (disk : Disk) (tree : FileTree) (directory : String)
    (artifacts : List Artifact) (compared : List (Artifact × ArtifactStatus)) :
    compareArtifacts disk tree directory artifacts = .ok compared ↔
      List.Forall₂ (fun artifact entry => artifact = entry.1 ∧
        compareArtifact disk tree directory entry.1 = .ok entry.2) artifacts compared := by
  apply mapM_eq_ok_iff_of
  intro artifact entry
  rw [bind_eq_ok_iff]
  constructor
  · rintro ⟨status, compared, same⟩
    cases same
    exact ⟨rfl, compared⟩
  · rintro ⟨rfl, compared⟩
    exact ⟨entry.2, compared, rfl⟩

theorem succeeds_compareArtifacts_iff (tree : FileTree) (directory : String)
    (artifacts : List Artifact) :
    Succeeds (compareArtifacts .sound tree directory artifacts) ↔
      ∀ artifact ∈ artifacts, Comparable tree directory artifact := by
  unfold compareArtifacts
  rw [succeeds_mapM_iff]
  simp only [succeeds_bind_pure_iff, succeeds_compareArtifact_iff]

theorem succeeds_checkArtifacts_iff (tree : FileTree) (directory : String)
    (output : ProjectOutput) : Succeeds (checkArtifacts tree directory output) ↔
      ∀ artifact ∈ output.artifacts, Comparable tree directory artifact := by
  unfold checkArtifacts
  rw [succeeds_bind_pure_iff, succeeds_compareArtifacts_iff]

theorem isUpToDate_iff {tree : FileTree} {directory : String} {output : ProjectOutput}
    {report : Report} (checked : checkArtifacts tree directory output = .ok report) :
    report.isUpToDate = true ↔
      ∀ artifact ∈ output.artifacts, Written tree directory artifact := by
  unfold checkArtifacts at checked
  obtain ⟨compared, comparing, same⟩ := bind_eq_ok_iff.mp checked
  cases same
  have pairs := (compareArtifacts_eq_ok_iff _ _ _ _ _).mp comparing
  have unchanged : (report directory compared false).isUpToDate = true ↔
      ∀ entry ∈ compared, entry.2 = .unchanged := by
    simp [Report.isUpToDate, report, ArtifactStatus.isChanged]
  rw [unchanged]
  constructor
  · intro all artifact member
    obtain ⟨entry, inside, rfl, here⟩ := exists_right_of_mem pairs member
    rw [all entry inside] at here
    exact (compareArtifact_unchanged_iff _ _ _).mp here
  · intro all entry inside
    obtain ⟨artifact, member, rfl, here⟩ := exists_left_of_mem pairs inside
    have same := (compareArtifact_unchanged_iff _ _ _).mpr (all _ member)
    exact Except.ok.inj (here.symm.trans same)

/-- Artifacts that are all written compare as unchanged. -/
theorem compareArtifacts_of_written {tree : FileTree} {directory : String}
    {artifacts : List Artifact}
    (written : ∀ artifact ∈ artifacts, Written tree directory artifact) :
    compareArtifacts .sound tree directory artifacts =
      .ok (artifacts.map fun artifact => (artifact, .unchanged)) := by
  rw [compareArtifacts_eq_ok_iff, List.forall₂_map_right_iff, List.forall₂_same]
  intro artifact member
  exact ⟨rfl, (compareArtifact_unchanged_iff _ _ _).mpr (written artifact member)⟩

end Stanza.Files
