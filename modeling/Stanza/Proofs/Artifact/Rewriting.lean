import Stanza.Proofs.Artifact.AllOrNone
import Stanza.Proofs.Files.Rereading

set_option autoImplicit false

/-!
Writing artifacts that are written already. The first run touches nothing but the places of
the artifacts and of their staging files; the second finds the directory and every artifact
as it wants them, and leaves the tree as it is.
-/

namespace Stanza.Files

/-! ### The first run -/

/-- A write that succeeded, with the tree between its stages and what it found. -/
structure WriteRun (tree made next : FileTree) (directory : String) (output : ProjectOutput)
    (compared : List (Artifact × ArtifactStatus)) : Prop where
  plain : Plain tree
  making : makeDirectories tree directory = (made, .ok ())
  comparing : compareArtifacts .sound made directory output.artifacts = .ok compared
  committing : commit .sound directory made (changedArtifacts compared) = (next, .ok ())

theorem exists_writeRun {tree next : FileTree} {directory : String} {output : ProjectOutput}
    {result : Report} (plain : Plain tree)
    (done : writeArtifacts tree directory output = (next, .ok result)) :
    ∃ made compared, WriteRun tree made next directory output compared ∧
      report directory compared true = result := by
  obtain ⟨made, compared, making, comparing, committing, told⟩ :=
    (writeArtifactsOn_eq_ok_iff .sound tree next directory output result).mp done
  exact ⟨made, compared, ⟨plain, making, comparing, committing⟩, told⟩

namespace WriteRun

variable {tree made next : FileTree} {directory : String} {output : ProjectOutput}
  {compared : List (Artifact × ArtifactStatus)}

theorem grows (run : WriteRun tree made next directory output compared) :
    Grows (names directory) tree made := by
  have grows := Disk.sound.grows_makeDirectories run.plain directory
  rwa [show Disk.sound.makeDirectories tree directory = (made, .ok ()) from run.making] at grows

theorem settled (run : WriteRun tree made next directory output compared) :
    Settled directory (changedArtifacts compared) made next := by
  have named := wellNamed_artifacts output
  have clear := clear_of_compared run.grows.plain (relative_of_makeDirectories run.making) named
    run.comparing
  rcases commit_cases .sound run.grows.plain (wellNamed_changed named run.comparing) clear with
    ⟨after, committed, settled⟩ | ⟨after, error, failed, _⟩
  · cases committed.symm.trans run.committing
    exact settled
  · cases failed.symm.trans run.committing

theorem mem_artifacts (run : WriteRun tree made next directory output compared)
    {artifact : Artifact} (changed : artifact ∈ changedArtifacts compared) :
    artifact ∈ output.artifacts := by
  have some_of := changedArtifacts_sublist compared
  rw [(compareArtifacts_ok run.comparing).1] at some_of
  exact some_of.subset changed

end WriteRun

theorem filesDiffer_of_written {tree next : FileTree} {directory : String}
    {output : ProjectOutput} {report : Report} (plain : Plain tree)
    (done : writeArtifacts tree directory output = (next, .ok report)) :
    FilesDiffer (movedPaths directory output.artifacts) (makeDirectories tree directory).1
      next := by
  obtain ⟨made, compared, run, _⟩ := exists_writeRun plain done
  rw [run.making]
  apply run.settled.differ.mono
  intro path member
  obtain ⟨artifact, inside, here⟩ := List.mem_flatMap.mp member
  exact List.mem_flatMap.mpr ⟨artifact, run.mem_artifacts inside, here⟩

theorem written_of_ok {tree next : FileTree} {directory : String} {output : ProjectOutput}
    {report : Report} (plain : Plain tree)
    (done : writeArtifacts tree directory output = (next, .ok report)) :
    ∀ artifact ∈ output.artifacts, Written next directory artifact := by
  rcases writeArtifactsOn_cases .sound directory output plain with
    ⟨after, _, ran, written⟩ | ⟨after, error, failed, _⟩
  · cases ran.symm.trans done
    exact written
  · cases failed.symm.trans done

/--
The places of the artifacts and of their staging files, once the directory is made. They are
the same for all outputs.
-/
def movedPlaces (tree : FileTree) (directory : String) : List Position :=
  (movedPaths directory emptyOutput.artifacts).filterMap
    (position? (makeDirectories tree directory).1)

theorem rewrites_of_written {tree next : FileTree} {directory : String} {output : ProjectOutput}
    {report : Report} (plain : Plain tree)
    (done : writeArtifacts tree directory output = (next, .ok report)) :
    Rewrites (movedPlaces tree directory) tree next := by
  have grows := Disk.sound.grows_makeDirectories plain directory
  have differ := filesDiffer_of_written plain done
  refine ⟨plain, differ.plain grows.plain, ?_, ?_⟩
  · intro position isDirectory
    apply (differ.directories position).mpr
    exact (grows.kept position (by simp [isDirectory])).trans isDirectory
  · intro position entry found clear
    obtain ⟨mid, inMade, alike⟩ := keeps_makeDirectories plain directory position entry found
    refine ⟨mid, differ.entries position mid inMade ?_, alike⟩
    intro path member place here
    exact clear place (List.mem_filterMap.mpr ⟨path, member, here⟩)

/-! ### The second run -/

theorem pathError?_of_join {base name : String} (named : IsName name)
    (noError : pathError? (join base name) = none) : base = "" ∨ pathError? base = none := by
  by_cases empty : base = ""
  · exact .inl empty
  · right
    obtain ⟨rest, whole⟩ : ∃ rest, join base name = base ++ rest := by
      rw [join_eq base named, if_neg empty]
      by_cases ends : endsWithSlash base = true
      · exact ⟨name, if_pos ends⟩
      · exact ⟨"/" ++ name, by rw [if_neg ends, String.append_assoc]⟩
    rw [whole] at noError
    unfold pathError? at noError ⊢
    rw [isAbsolute_append rest empty, String.utf8ByteSize_append] at noError
    split_ifs at noError with zero other long
    have noZero : ¬ (base.toList.contains '\x00') = true := by
      intro inside
      apply zero
      rw [String.toList_append]
      simp only [List.contains_eq_mem, decide_eq_true_eq] at inside ⊢
      exact List.mem_append_left _ inside
    have relative : ¬ (base = "" ∨ isAbsolute base = true) := by
      rintro (same | absolute)
      · exact empty same
      · exact other (.inr absolute)
    rw [if_neg noZero, if_neg relative, if_neg (by omega)]

theorem makeDirectories_of_directory {tree : FileTree} (plain : Plain tree) {path : String}
    (noError : path = "" ∨ pathError? path = none) {place : Position}
    (reached : directoryAt? tree [] (names path) = some place) :
    Disk.sound.makeDirectories tree path = (tree, .ok ()) := by
  obtain ⟨entries, found⟩ := at?_of_stateAt_directory (stateAt_directoryAt? plain.root reached)
  unfold Disk.makeDirectories
  rcases noError with rfl | noError
  · rfl
  have nonempty : path ≠ "" := by
    rintro rfl
    cases noError
  have relative : ¬ isAbsolute path = true := by
    intro absolute
    unfold pathError? at noError
    split_ifs at noError with zero other
    exact other (.inr absolute)
  have there : Disk.sound.makeDirectory tree path = .error .alreadyExists := by
    have walked : walk tree false [] (names path) =
        .done (.ok (.present place (.directory entries))) := walk_of_directoryAt? reached found
    unfold Disk.makeDirectory Disk.sound Files.makeDirectory
    simp only [noError, linkLimit, resolveFrom, walked]
  have isThere : isDirectory tree path = true := by
    have dots : directoryAt? tree [] (steps path) = some place := by
      unfold steps
      rw [directoryAt?_append, reached]
      apply directoryAt?_dots
      intro step member
      split_ifs at member
      · exact List.mem_singleton.mp member
      · cases member
    unfold isDirectory lookup
    rw [(resolve_eq_ok_iff plain true path _).mpr ⟨noError, walk_of_directoryAt? dots found⟩]
    rfl
  rw [if_neg relative, Disk.makeDirectoriesFrom, if_neg nonempty, there]
  simp only [Disk.ensureDirectory, there, isThere, if_true]

theorem reached_of_written {tree : FileTree} (plain : Plain tree) {directory : String}
    {artifact : Artifact} (named : artifact.WellNamed) (written : Written tree directory artifact) :
    (directory = "" ∨ pathError? directory = none) ∧
      ∃ place, directoryAt? tree [] (names directory) = some place := by
  obtain ⟨position, found⟩ := position?_of_state_ne_absent plain
    (endsInName_artifactPath directory named) (by rw [written]; simp)
  obtain ⟨noError, place, reached, _⟩ := exists_of_position?_join named.ofArtifact found
  exact ⟨pathError?_of_join named.ofArtifact noError, place, reached⟩

/-- What writing reports when every artifact is written already. -/
def unchangedReport (directory : String) : Report where
  directory := directory
  entries := [("resources.tf", .unchanged), ("data_sources.tf", .unchanged),
    ("resources.json", .unchanged), ("data_sources.json", .unchanged)]
  written := true

theorem writeArtifacts_of_written {tree : FileTree} (plain : Plain tree) {directory : String}
    {output : ProjectOutput}
    (written : ∀ artifact ∈ output.artifacts, Written tree directory artifact) :
    writeArtifacts tree directory output = (tree, .ok (unchangedReport directory)) := by
  have named := wellNamed_artifacts output
  have first : (⟨"resources.tf", output.resourcesText⟩ : Artifact) ∈ output.artifacts := by
    simp [ProjectOutput.artifacts]
  obtain ⟨noError, place, reached⟩ :=
    reached_of_written plain (named.each _ first) (written _ first)
  have none_changed : changedArtifacts
      (output.artifacts.map fun artifact => (artifact, .unchanged)) = [] := by
    simp [changedArtifacts, ArtifactStatus.isChanged]
  unfold writeArtifacts writeArtifactsOn
  rw [makeDirectories_of_directory plain noError reached]
  simp only [compareArtifacts_of_written written, none_changed, commit, stage, settle, changeEach]
  rfl

end Stanza.Files
