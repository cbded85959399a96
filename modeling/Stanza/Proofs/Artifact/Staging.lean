import Stanza.Artifact
import Stanza.Proofs.Files.Changes

set_option autoImplicit false

/-!
Staging artifacts beside their places and moving them there. A staging run that fails
leaves no staging file behind, and one that ends leaves every artifact ready to be moved,
which then cannot fail.
-/

namespace Stanza

/-! ### Names -/

def Artifact.stagingName (artifact : Artifact) : String := "." ++ artifact.name ++ ".tmp"

/-- An artifact with a name that shows and can be staged beside its place. -/
structure Artifact.WellNamed (artifact : Artifact) : Prop where
  ofArtifact : Files.IsName artifact.name
  ofStaging : Files.IsName artifact.stagingName
  visible : artifact.name.toList.head? ≠ some '.'

structure WellNamed (artifacts : List Artifact) : Prop where
  each : ∀ artifact ∈ artifacts, artifact.WellNamed
  distinct : (artifacts.map Artifact.name).Nodup

theorem WellNamed.sublist {few all : List Artifact} (named : WellNamed all)
    (some_of : few.Sublist all) : WellNamed few :=
  ⟨fun artifact member => named.each artifact (some_of.subset member),
    named.distinct.sublist (some_of.map _)⟩

theorem WellNamed.tail {artifact : Artifact} {rest : List Artifact}
    (named : WellNamed (artifact :: rest)) : WellNamed rest :=
  named.sublist (List.sublist_cons_self artifact rest)

theorem WellNamed.head_ne {artifact other : Artifact} {rest : List Artifact}
    (named : WellNamed (artifact :: rest)) (member : other ∈ rest) :
    artifact.name ≠ other.name := by
  intro same
  have fresh := (List.nodup_cons.mp named.distinct).1
  exact fresh (List.mem_map.mpr ⟨other, member, same.symm⟩)

theorem Artifact.stagingName_injective {left right : Artifact}
    (same : left.stagingName = right.stagingName) : left.name = right.name := by
  have chars := congrArg String.toList same
  simp only [stagingName, String.toList_append] at chars
  have front := List.append_cancel_right chars
  exact String.toList_inj.mp (List.append_cancel_left front)

theorem Artifact.stagingName_ne_name (staged : Artifact) {artifact : Artifact}
    (visible : artifact.name.toList.head? ≠ some '.') : staged.stagingName ≠ artifact.name := by
  intro same
  apply visible
  rw [← same]
  simp [stagingName]

namespace Files

/-! ### Places -/

theorem endsInName_artifactPath (directory : String) {artifact : Artifact}
    (named : artifact.WellNamed) : EndsInName (artifactPath directory artifact) :=
  endsInName_join directory named.ofArtifact

theorem endsInName_stagingPath (directory : String) {artifact : Artifact}
    (named : artifact.WellNamed) : EndsInName (stagingPath directory artifact) :=
  endsInName_join _ named.ofStaging

theorem exists_of_position?_stagingPath {tree : FileTree} {directory : String}
    {artifact : Artifact} (named : artifact.WellNamed) {position : Position}
    (found : position? tree (stagingPath directory artifact) = some position) :
    ∃ place, directoryAt? tree [] (names directory) = some place ∧
      position = place ++ [artifact.stagingName] := by
  obtain ⟨_, place, reached, here⟩ := exists_of_position?_join named.ofStaging found
  obtain ⟨dots, base, dotted⟩ := names_parent_join directory named.ofArtifact
  refine ⟨place, ?_, here⟩
  rw [base, directoryAt?_append]
  unfold artifactPath at reached
  rw [reached]
  exact directoryAt?_dots tree place dotted

theorem position?_artifactPath {tree : FileTree} {directory : String} {artifact : Artifact}
    (named : artifact.WellNamed) {place : Position}
    (noError : pathError? (artifactPath directory artifact) = none)
    (reached : directoryAt? tree [] (names directory) = some place) :
    position? tree (artifactPath directory artifact) = some (place ++ [artifact.name]) := by
  unfold artifactPath at noError ⊢
  rw [position?_join tree directory named.ofArtifact noError, reached]
  rfl

theorem apart_staging_artifact (tree : FileTree) (directory : String) {staged artifact : Artifact}
    (stagedNamed : staged.WellNamed) (named : artifact.WellNamed) :
    Apart tree (stagingPath directory staged) (artifactPath directory artifact) := by
  intro position left right
  obtain ⟨place, _, leftIs⟩ := exists_of_position?_stagingPath stagedNamed left
  obtain ⟨_, other, _, rightIs⟩ := exists_of_position?_join named.ofArtifact right
  have same := List.append_inj_right' (leftIs.symm.trans rightIs) rfl
  exact staged.stagingName_ne_name named.visible (List.singleton_inj.mp same)

theorem apart_staging_staging (tree : FileTree) (directory : String) {left right : Artifact}
    (leftNamed : left.WellNamed) (rightNamed : right.WellNamed)
    (different : left.name ≠ right.name) :
    Apart tree (stagingPath directory left) (stagingPath directory right) := by
  intro position leftHere rightHere
  obtain ⟨_, _, leftIs⟩ := exists_of_position?_stagingPath leftNamed leftHere
  obtain ⟨_, _, rightIs⟩ := exists_of_position?_stagingPath rightNamed rightHere
  have same := List.append_inj_right' (leftIs.symm.trans rightIs) rfl
  exact different (Artifact.stagingName_injective (List.singleton_inj.mp same))

theorem apart_artifact_artifact (tree : FileTree) (directory : String) {left right : Artifact}
    (leftNamed : left.WellNamed) (rightNamed : right.WellNamed)
    (different : left.name ≠ right.name) :
    Apart tree (artifactPath directory left) (artifactPath directory right) := by
  intro position leftHere rightHere
  obtain ⟨_, _, _, leftIs⟩ := exists_of_position?_join leftNamed.ofArtifact leftHere
  obtain ⟨_, _, _, rightIs⟩ := exists_of_position?_join rightNamed.ofArtifact rightHere
  have same := List.append_inj_right' (leftIs.symm.trans rightIs) rfl
  exact different (List.singleton_inj.mp same)

/-! ### Staging -/

def Staged (tree : FileTree) (directory : String) (artifact : Artifact) : Prop :=
  state tree (stagingPath directory artifact) = .file artifact.contents.toUTF8

def stagingPaths (directory : String) (artifacts : List Artifact) : List String :=
  artifacts.map (stagingPath directory)

theorem stage_append (disk : Disk) (directory : String) (staged front back : List Artifact)
    (tree : FileTree) :
    stage disk directory staged tree (front ++ back) =
      match stage disk directory staged tree front with
      | (mid, .ok ()) => stage disk directory (staged ++ front) mid back
      | failed => failed := by
  induction front generalizing staged tree with
  | nil => rw [List.nil_append, List.append_nil, stage]
  | cons artifact rest ih =>
      rw [List.cons_append, stage, stage]
      cases disk.write tree (stagingPath directory artifact) artifact.contents.toUTF8 with
      | mk next result =>
          cases result with
          | error error => rfl
          | ok done =>
              simp only
              rw [ih, List.append_assoc, List.singleton_append]

theorem stage_ok {disk : Disk} {directory : String} {tree next : FileTree}
    {staged todo : List Artifact} (plain : Plain tree) (named : WellNamed todo)
    (done : stage disk directory staged tree todo = (next, .ok ())) :
    FilesDiffer (stagingPaths directory todo) tree next ∧
      ∀ artifact ∈ todo, Staged next directory artifact := by
  induction todo generalizing tree staged with
  | nil =>
      cases done
      exact ⟨.refl _ _, by simp⟩
  | cons artifact rest ih =>
      have here := named.each artifact List.mem_cons_self
      have ends := endsInName_stagingPath directory here
      rw [stage] at done
      cases written : disk.write tree (stagingPath directory artifact)
          artifact.contents.toUTF8 with
      | mk mid result =>
          rw [written] at done
          cases result with
          | error error => cases done
          | ok _ =>
              obtain ⟨position, puts⟩ := puts_of_write plain ends (Disk.write_ok written)
              have midPlain := puts.filesDiffer.plain plain
              obtain ⟨differ, others⟩ := ih midPlain named.tail done
              refine ⟨puts.filesDiffer.trans differ, ?_⟩
              intro other member
              rcases List.mem_cons.mp member with rfl | later
              · have kept : state next (stagingPath directory other) =
                    state mid (stagingPath directory other) := by
                  apply differ.state_eq midPlain ends
                  intro path inside
                  obtain ⟨later, memberLater, rfl⟩ := List.mem_map.mp inside
                  exact apart_staging_staging mid directory here
                    (named.tail.each later memberLater) (named.head_ne memberLater)
                unfold Staged
                rw [kept, puts.state_eq plain ends]
                rfl
              · exact others other later

theorem state_artifactPath_of_staging {directory : String} {tree next : FileTree}
    {artifacts : List Artifact} (plain : Plain tree) (named : ∀ other ∈ artifacts, other.WellNamed)
    (differ : FilesDiffer (stagingPaths directory artifacts) tree next) {artifact : Artifact}
    (here : artifact.WellNamed) :
    state next (artifactPath directory artifact) = state tree (artifactPath directory artifact) := by
  apply differ.state_eq plain (endsInName_artifactPath directory here)
  intro path inside
  obtain ⟨other, member, rfl⟩ := List.mem_map.mp inside
  exact (apart_staging_artifact tree directory (named other member) here).symm

/-! ### Discarding -/

def NoFile (tree : FileTree) (path : String) : Prop :=
  ∀ contents, state tree path ≠ .file contents

/-- What discarding does to a tree: files go at staging paths, and no file comes. -/
structure Discarded (directory : String) (artifacts : List Artifact) (tree next : FileTree) :
    Prop where
  differ : FilesDiffer (stagingPaths directory artifacts) tree next
  gone : ∀ artifact ∈ artifacts, NoFile next (stagingPath directory artifact)
  noNew : ∀ path, EndsInName path → NoFile tree path → NoFile next path

theorem noFile_of_puts_none {tree next : FileTree} (plain : Plain tree) {path other : String}
    {position : Position} (puts : Puts tree next path position none) (ends : EndsInName other)
    (noFile : NoFile tree other) : NoFile next other := by
  intro contents
  have before := noFile contents
  rw [state_eq plain ends] at before
  rw [state_eq (puts.filesDiffer.plain plain) ends, puts.filesDiffer.position?_eq]
  cases found : position? tree other with
  | none => simp
  | some place =>
      rw [found] at before
      simp only [puts.after]
      by_cases same : place = position
      · rw [same, Function.update_self]
        simp [fileState]
      · rw [Function.update_of_ne same]
        exact before

theorem discarded_one (directory : String) {tree : FileTree} {artifact : Artifact}
    (plain : Plain tree) (named : artifact.WellNamed) :
    Discarded directory [artifact] tree (discardOne directory tree artifact) := by
  have ends := endsInName_stagingPath directory named
  unfold discardOne
  cases removed : removeFile tree (stagingPath directory artifact) with
  | error error =>
      refine ⟨.refl _ _, ?_, fun _ _ noFile => noFile⟩
      intro other member contents file
      rw [List.mem_singleton.mp member] at file
      obtain ⟨next, possible⟩ := removeFile_of_file plain ends file
      cases removed.symm.trans possible
  | ok next =>
      obtain ⟨position, puts⟩ := puts_of_removeFile plain ends removed
      refine ⟨puts.filesDiffer, ?_, fun _ => noFile_of_puts_none plain puts⟩
      intro other member contents
      rw [List.mem_singleton.mp member, puts.state_eq plain ends]
      simp [fileState]

theorem discarded (directory : String) {tree : FileTree} {artifacts : List Artifact}
    (plain : Plain tree) (named : ∀ artifact ∈ artifacts, artifact.WellNamed) :
    Discarded directory artifacts tree (discard directory tree artifacts) := by
  induction artifacts generalizing tree with
  | nil => exact ⟨.refl _ _, by simp, fun _ _ noFile => noFile⟩
  | cons artifact rest ih =>
      have here := named artifact List.mem_cons_self
      have first := discarded_one directory plain here
      have later := ih (first.differ.plain plain) fun other member =>
        named other (List.mem_cons_of_mem _ member)
      refine ⟨first.differ.trans later.differ, ?_, ?_⟩
      · intro other member
        rcases List.mem_cons.mp member with rfl | inside
        · exact later.noNew _ (endsInName_stagingPath directory here)
            (first.gone _ List.mem_cons_self)
        · exact later.gone other inside
      · intro path ends noFile
        exact later.noNew path ends (first.noNew path ends noFile)

/-! ### A staging run that fails -/

theorem stage_error {disk : Disk} {directory : String} {tree next : FileTree}
    {staged todo : List Artifact} {error : FileError}
    (failed : stage disk directory staged tree todo = (next, .error error)) :
    ∃ front failing back mid stored, todo = front ++ failing :: back ∧
      stage disk directory staged tree front = (mid, .ok ()) ∧
      disk.write mid (stagingPath directory failing) failing.contents.toUTF8 =
        (stored, .error error) := by
  induction todo generalizing tree staged with
  | nil => cases failed
  | cons artifact rest ih =>
      rw [stage] at failed
      cases written : disk.write tree (stagingPath directory artifact)
          artifact.contents.toUTF8 with
      | mk mid result =>
          rw [written] at failed
          cases result with
          | error other =>
              cases failed
              exact ⟨[], artifact, rest, tree, mid, rfl, rfl, written⟩
          | ok done =>
              obtain ⟨front, failing, back, later, stored, split, before, refused⟩ := ih failed
              refine ⟨artifact :: front, failing, back, later, stored, ?_, ?_, refused⟩
              · rw [split, List.cons_append]
              · rw [stage, written]
                exact before

theorem stage_refused {disk : Disk} {directory : String} {tree mid stored : FileTree}
    {front back : List Artifact} {failing : Artifact} {error : FileError}
    (before : stage disk directory [] tree front = (mid, .ok ()))
    (refused : disk.write mid (stagingPath directory failing) failing.contents.toUTF8 =
      (stored, .error error)) :
    stage disk directory [] tree (front ++ failing :: back) =
      (discard directory stored (front ++ [failing]), .error error) := by
  rw [stage_append, before]
  simp only
  rw [stage, refused, List.nil_append]

/-- After a staging run that failed, no file that it wrote is left. -/
theorem stage_cleared {disk : Disk} {directory : String} {tree mid stored : FileTree}
    {front back : List Artifact} {failing : Artifact} {error : FileError} (plain : Plain tree)
    (named : WellNamed (front ++ failing :: back))
    (before : stage disk directory [] tree front = (mid, .ok ()))
    (refused : disk.write mid (stagingPath directory failing) failing.contents.toUTF8 =
      (stored, .error error)) :
    FilesDiffer (stagingPaths directory (front ++ [failing])) tree
        (discard directory stored (front ++ [failing])) ∧
      ∀ artifact ∈ front ++ [failing], NoFile (discard directory stored (front ++ [failing]))
        (stagingPath directory artifact) := by
  have tried : (front ++ [failing]).Sublist (front ++ failing :: back) :=
    List.Sublist.append_left (List.singleton_sublist.mpr List.mem_cons_self) front
  have triedNamed := named.sublist tried
  have frontNamed := triedNamed.sublist (List.sublist_append_left front [failing])
  have failingNamed := triedNamed.each failing (by simp)
  have midDiffer := (stage_ok plain frontNamed before).1
  have midPlain := midDiffer.plain plain
  have storedDiffer : FilesDiffer [stagingPath directory failing] mid stored := by
    rcases Disk.write_error refused with rfl | ⟨part, written⟩
    · exact .refl _ _
    · obtain ⟨position, puts⟩ := puts_of_write midPlain
        (endsInName_stagingPath directory failingNamed) written
      exact puts.filesDiffer
  have cleared := discarded directory (storedDiffer.plain midPlain) triedNamed.each
  refine ⟨((midDiffer.trans storedDiffer).trans cleared.differ).mono ?_, cleared.gone⟩
  intro path member
  rcases List.mem_append.mp member with early | late
  · simpa [stagingPaths] using early
  · exact late

/-! ### Settling -/

/-- An artifact is staged, and its place holds no directory. -/
structure Ready (tree : FileTree) (directory : String) (artifact : Artifact) : Prop where
  staged : Staged tree directory artifact
  placed : ∃ place, position? tree (artifactPath directory artifact) = some place
  noDirectory : state tree (artifactPath directory artifact) ≠ .directory

theorem ready_of_stage {disk : Disk} {directory : String} {tree next : FileTree}
    {todo : List Artifact} (plain : Plain tree) (named : WellNamed todo)
    (clear : ∀ artifact ∈ todo, pathError? (artifactPath directory artifact) = none ∧
      state tree (artifactPath directory artifact) ≠ .directory)
    (done : stage disk directory [] tree todo = (next, .ok ())) {artifact : Artifact}
    (member : artifact ∈ todo) : Ready next directory artifact := by
  obtain ⟨differ, staged⟩ := stage_ok plain named done
  have here := named.each artifact member
  obtain ⟨noError, noDirectory⟩ := clear artifact member
  have isStaged : state next (stagingPath directory artifact) = .file artifact.contents.toUTF8 :=
    staged artifact member
  obtain ⟨position, found⟩ := position?_of_state_ne_absent (differ.plain plain)
    (endsInName_stagingPath directory here) (by simp [isStaged])
  obtain ⟨place, reached, _⟩ := exists_of_position?_stagingPath here found
  refine ⟨isStaged, ⟨_, position?_artifactPath here noError reached⟩, ?_⟩
  rwa [state_artifactPath_of_staging plain named.each differ here]

def Written (tree : FileTree) (directory : String) (artifact : Artifact) : Prop :=
  state tree (artifactPath directory artifact) = .file artifact.contents.toUTF8

def movedPaths (directory : String) (artifacts : List Artifact) : List String :=
  artifacts.flatMap fun artifact => [artifactPath directory artifact, stagingPath directory artifact]

/-- What moving artifacts into place does: they are written, and their staging files are gone. -/
structure Settled (directory : String) (artifacts : List Artifact) (tree next : FileTree) :
    Prop where
  differ : FilesDiffer (movedPaths directory artifacts) tree next
  written : ∀ artifact ∈ artifacts, Written next directory artifact
  gone : ∀ artifact ∈ artifacts, state next (stagingPath directory artifact) = .absent

theorem moveIntoPlace_ready {directory : String} {tree : FileTree} {artifact : Artifact}
    (plain : Plain tree) (named : artifact.WellNamed) (ready : Ready tree directory artifact) :
    ∃ next, moveIntoPlace directory tree artifact = (next, .ok ()) ∧
      Settled directory [artifact] tree next := by
  have stagingEnds := endsInName_stagingPath directory named
  have placeEnds := endsInName_artifactPath directory named
  obtain ⟨place, placed⟩ := ready.placed
  have apart := apart_staging_artifact tree directory named named
  obtain ⟨mid, next, origin, renamed, put, taken⟩ := rename_of_file plain stagingEnds placeEnds
    ready.staged placed (fun same => apart place same placed) ready.noDirectory
  have midPlain := put.filesDiffer.plain plain
  refine ⟨next, ?_, put.filesDiffer.trans taken.filesDiffer, ?_, ?_⟩
  · unfold moveIntoPlace
    rw [renamed]
  · intro other member
    rw [List.mem_singleton.mp member]
    have kept : state next (artifactPath directory artifact) =
        state mid (artifactPath directory artifact) := by
      have each : ∀ other ∈ [artifact], other.WellNamed := by simpa using named
      exact state_artifactPath_of_staging midPlain each taken.filesDiffer named
    unfold Written
    rw [kept, put.state_eq plain placeEnds]
    rfl
  · intro other member
    rw [List.mem_singleton.mp member, taken.state_eq midPlain stagingEnds]
    rfl

theorem states_of_moved {directory : String} {tree next : FileTree} (moved : List Artifact)
    {artifact : Artifact} (plain : Plain tree) (named : artifact.WellNamed)
    (movedNamed : ∀ other ∈ moved, other.WellNamed)
    (different : ∀ other ∈ moved, artifact.name ≠ other.name)
    (differ : FilesDiffer (movedPaths directory moved) tree next) :
    state next (stagingPath directory artifact) = state tree (stagingPath directory artifact) ∧
      state next (artifactPath directory artifact) =
        state tree (artifactPath directory artifact) := by
  constructor
  · apply differ.state_eq plain (endsInName_stagingPath directory named)
    intro path member
    obtain ⟨other, inside, here⟩ := List.mem_flatMap.mp member
    have otherNamed := movedNamed other inside
    rcases List.mem_pair.mp here with rfl | rfl
    · exact apart_staging_artifact tree directory named otherNamed
    · exact apart_staging_staging tree directory named otherNamed (different other inside)
  · apply differ.state_eq plain (endsInName_artifactPath directory named)
    intro path member
    obtain ⟨other, inside, here⟩ := List.mem_flatMap.mp member
    have otherNamed := movedNamed other inside
    rcases List.mem_pair.mp here with rfl | rfl
    · exact apart_artifact_artifact tree directory named otherNamed (different other inside)
    · exact (apart_staging_artifact tree directory otherNamed named).symm

/-- Artifacts that are ready are moved into place without a failure. -/
theorem settle_ready {directory : String} {tree : FileTree} {todo : List Artifact}
    (plain : Plain tree) (named : WellNamed todo)
    (ready : ∀ artifact ∈ todo, Ready tree directory artifact) :
    ∃ next, settle directory tree todo = (next, .ok ()) ∧ Settled directory todo tree next := by
  induction todo generalizing tree with
  | nil => exact ⟨tree, rfl, .refl _ _, by simp, by simp⟩
  | cons artifact rest ih =>
      have here := named.each artifact List.mem_cons_self
      obtain ⟨mid, moved, first⟩ :=
        moveIntoPlace_ready plain here (ready artifact List.mem_cons_self)
      have midPlain := first.differ.plain plain
      have midReady : ∀ other ∈ rest, Ready mid directory other := by
        intro other member
        have before := ready other (List.mem_cons_of_mem _ member)
        obtain ⟨stagedSame, placeSame⟩ := states_of_moved [artifact] plain
          (named.tail.each other member) (by simpa using here)
          (by simpa using (named.head_ne member).symm) first.differ
        refine ⟨stagedSame.trans before.staged, ?_, ?_⟩
        · rw [first.differ.position?_eq]
          exact before.placed
        · rw [placeSame]
          exact before.noDirectory
      obtain ⟨next, settled, later⟩ := ih midPlain named.tail midReady
      obtain ⟨stagingSame, placeSame⟩ := states_of_moved rest midPlain here
        (fun other inside => named.tail.each other inside)
        (fun other inside => named.head_ne inside) later.differ
      refine ⟨next, ?_, first.differ.trans later.differ, ?_, ?_⟩
      · unfold settle at settled ⊢
        rw [changeEach, moved]
        exact settled
      · intro other member
        rcases List.mem_cons.mp member with rfl | inside
        · exact placeSame.trans (first.written _ List.mem_cons_self)
        · exact later.written other inside
      · intro other member
        rcases List.mem_cons.mp member with rfl | inside
        · exact stagingSame.trans (first.gone _ List.mem_cons_self)
        · exact later.gone other inside

end Files
end Stanza
