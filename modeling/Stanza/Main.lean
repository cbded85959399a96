import Stanza.Command.Run
import Stanza.Files.Changes

set_option autoImplicit false

/-!
The command line. The paths of the files and directories to work on come in on standard
input, one to a line, as in `find . | tfgen generate`; a path that cannot be read as a
file counts as a directory. The command runs on the tree of these, and what it changes
is written back.
-/

namespace Stanza.Main

open Files

/-- Reads the lines of a stream up to its end. -/
partial def readLines (input : IO.FS.Stream) (taken : List String) : IO (List String) := do
  let line ← input.getLine
  if line.isEmpty then pure taken.reverse
  else readLines input (String.ofList (line.toList.filter fun c => c ≠ '\n') :: taken)

def readContents (path : String) : IO (Option ByteArray) := do
  try
    let contents ← IO.FS.readBinFile path
    pure (some contents)
  catch _ => pure none

def snapshot (paths : List String) : IO FileTree :=
  paths.foldlM (fun tree path => do
    let contents ← readContents path
    pure (add tree path contents)) Entry.empty

def apply : Change → IO Unit
  | .directory path => IO.FS.createDirAll path
  | .file path contents => IO.FS.writeBinFile path contents

/-- The variables of the environment that options fall back to. -/
def environment : IO (List (String × String)) := do
  let names := [Command.Parameter.config, .output].filterMap Command.Parameter.variableName?
  let found ← names.mapM fun name => do
    let value ← IO.getEnv name
    pure (value.map fun value => (name, value))
  pure (found.filterMap id)

end Stanza.Main

/-- Runs the command that the arguments name, and exits with its code. -/
def main (arguments : List String) : IO UInt32 := do
  let input ← IO.getStdin
  let output ← IO.getStdout
  let errors ← IO.getStderr
  let paths ← Stanza.Main.readLines input []
  let before ← Stanza.Main.snapshot paths
  let fallbacks ← Stanza.Main.environment
  let outcome := Stanza.Command.run before fallbacks arguments
  (Stanza.Files.changes before outcome.tree).forM Stanza.Main.apply
  output.putStr outcome.stdout
  errors.putStr outcome.stderr
  pure outcome.exit.toUInt32
