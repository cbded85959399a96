import Stanza.Files.Disk
import Stanza.Project
import Stanza.Value.Printer

set_option autoImplicit false

/-!
The artifacts of a project are four files in one directory. All of them are compared
with the files present before anything is written; those that differ are written under
staging names first and then renamed, so that either all changes are made or none.
-/

namespace Stanza

structure Artifact where
  name : String
  contents : String
deriving DecidableEq, Repr

def manifestText (manifest : Manifest) : String :=
  (Value.ofTable (manifest.map Value.ofTable)).pretty

/-- The artifacts of a project in their order. -/
def ProjectOutput.artifacts (output : ProjectOutput) : List Artifact :=
  [⟨"resources.tf", output.resourcesText⟩,
    ⟨"data_sources.tf", output.dataSourcesText⟩,
    ⟨"resources.json", manifestText output.resourcesManifest⟩,
    ⟨"data_sources.json", manifestText output.dataSourcesManifest⟩]

inductive ArtifactStatus where
  | created
  | updated
  | unchanged
deriving DecidableEq, Repr

namespace ArtifactStatus

def text : ArtifactStatus → String
  | .created => "created"
  | .updated => "updated"
  | .unchanged => "unchanged"

def isChanged (status : ArtifactStatus) : Bool := status != .unchanged

end ArtifactStatus

/-- What writing or checking artifacts finds, artifact by artifact. -/
structure Report where
  directory : String
  entries : List (String × ArtifactStatus)
  /-- False when the artifacts were only compared. -/
  written : Bool
deriving DecidableEq, Repr

namespace Report

def changed (report : Report) : List String :=
  (report.entries.filter fun entry => entry.2.isChanged).map Prod.fst

def isUpToDate (report : Report) : Bool :=
  report.entries.all fun entry => !entry.2.isChanged

def status? (report : Report) (name : String) : Option ArtifactStatus :=
  findValue? name report.entries

end Report

namespace Files

def artifactPath (directory : String) (artifact : Artifact) : String :=
  join directory artifact.name

/-- The name beside an artifact under which it is staged. -/
def stagingPath (directory : String) (artifact : Artifact) : String :=
  join (parent (artifactPath directory artifact)) ("." ++ artifact.name ++ ".tmp")

def compareArtifact (disk : Disk) (tree : FileTree) (directory : String) (artifact : Artifact) :
    Except FileError ArtifactStatus :=
  match disk.read tree (artifactPath directory artifact) with
  | .ok contents =>
      .ok (if contents.data = artifact.contents.toUTF8.data then .unchanged else .updated)
  | .error .notFound => .ok .created
  | .error error => .error error

/-- Compares all artifacts, in order, up to a file that cannot be read. -/
def compareArtifacts (disk : Disk) (tree : FileTree) (directory : String)
    (artifacts : List Artifact) : Except FileError (List (Artifact × ArtifactStatus)) :=
  artifacts.mapM fun artifact => do
    let status ← compareArtifact disk tree directory artifact
    pure (artifact, status)

def changedArtifacts (compared : List (Artifact × ArtifactStatus)) : List Artifact :=
  (compared.filter fun entry => entry.2.isChanged).map Prod.fst

/-- Removes the staging file of an artifact if it can be removed. -/
def discardOne (directory : String) (tree : FileTree) (artifact : Artifact) : FileTree :=
  match removeFile tree (stagingPath directory artifact) with
  | .ok next => next
  | .error _ => tree

def discard (directory : String) (tree : FileTree) (artifacts : List Artifact) : FileTree :=
  artifacts.foldl (discardOne directory) tree

/-- Stages artifacts; when one cannot be written, it and those before it are removed again. -/
def stage (disk : Disk) (directory : String) (staged : List Artifact) :
    FileTree → List Artifact → FileTree × Except FileError Unit
  | tree, [] => (tree, .ok ())
  | tree, artifact :: rest =>
      match disk.write tree (stagingPath directory artifact) artifact.contents.toUTF8 with
      | (next, .ok ()) => stage disk directory (staged ++ [artifact]) next rest
      | (next, .error error) => (discard directory next (staged ++ [artifact]), .error error)

/-- Changes a tree for each artifact in order, up to a change that fails. -/
def changeEach (change : FileTree → Artifact → FileTree × Except FileError Unit) :
    FileTree → List Artifact → FileTree × Except FileError Unit
  | tree, [] => (tree, .ok ())
  | tree, artifact :: rest =>
      match change tree artifact with
      | (next, .ok ()) => changeEach change next rest
      | failed => failed

def moveIntoPlace (directory : String) (tree : FileTree) (artifact : Artifact) :
    FileTree × Except FileError Unit :=
  match rename tree (stagingPath directory artifact) (artifactPath directory artifact) with
  | .ok next => (next, .ok ())
  | .error error => (tree, .error error)

def settle (directory : String) (tree : FileTree) (artifacts : List Artifact) :
    FileTree × Except FileError Unit :=
  changeEach (moveIntoPlace directory) tree artifacts

def commit (disk : Disk) (directory : String) (tree : FileTree) (changed : List Artifact) :
    FileTree × Except FileError Unit :=
  match stage disk directory [] tree changed with
  | (staged, .ok ()) => settle directory staged changed
  | failed => failed

def report (directory : String) (compared : List (Artifact × ArtifactStatus))
    (written : Bool) : Report :=
  ⟨directory, compared.map fun entry => (entry.1.name, entry.2), written⟩

def checkArtifacts (tree : FileTree) (directory : String) (output : ProjectOutput) :
    Except FileError Report := do
  let compared ← compareArtifacts .sound tree directory output.artifacts
  pure (report directory compared false)

/-- Writes the artifacts that differ into a directory, which is made when it is missing. -/
def writeArtifactsOn (disk : Disk) (tree : FileTree) (directory : String)
    (output : ProjectOutput) : FileTree × Except FileError Report :=
  match disk.makeDirectories tree directory with
  | (made, .error error) => (made, .error error)
  | (made, .ok ()) =>
      match compareArtifacts disk made directory output.artifacts with
      | .error error => (made, .error error)
      | .ok compared =>
          match commit disk directory made (changedArtifacts compared) with
          | (next, .ok ()) => (next, .ok (report directory compared true))
          | (next, .error error) => (next, .error error)

def writeArtifacts (tree : FileTree) (directory : String) (output : ProjectOutput) :
    FileTree × Except FileError Report :=
  writeArtifactsOn .sound tree directory output

end Files
end Stanza
