import Stanza.Files.Disk

set_option autoImplicit false

/-!
What has to be written to turn one file tree into another: the directories that are
missing, each before what it holds, and the files whose contents differ. Entries that
are gone and links are left out; no command takes any away or makes one.
-/

namespace Stanza.Files

inductive Change where
  | directory (path : String)
  | file (path : String) (contents : ByteArray)

def entriesOf : Option Entry → List (String × Entry)
  | some (.directory entries) => entries
  | _ => []

mutual
/-- The changes that lead from what is at a path to an entry. -/
def changesTo (path : String) (before : Option Entry) : Entry → List Change
  | .file contents =>
      match before with
      | some (.file old) => if old = contents then [] else [.file path contents]
      | _ => [.file path contents]
  | .directory entries =>
      let below := changesToAll (path ++ "/") (entriesOf before) entries
      match before with
      | some (.directory _) => below
      | _ => .directory path :: below
  | .link _ => []
termination_by structural entry => entry

def changesToAll (base : String) (before : List (String × Entry)) :
    List (String × Entry) → List Change
  | [] => []
  | (name, entry) :: rest =>
      changesTo (base ++ name) (findValue? name before) entry ++ changesToAll base before rest
termination_by structural entries => entries
end

/-- The changes between two trees, with paths from their root. -/
def changes (before after : FileTree) : List Change :=
  changesToAll "" (entriesOf (some before)) (entriesOf (some after))

/-- Adds a file below directories made for it, or a directory where there are no contents. -/
def add (tree : FileTree) (path : String) (contents : Option ByteArray) : FileTree :=
  let directory := if contents.isSome then parent path else path
  match makeDirectories tree directory, contents with
  | (made, .ok ()), some contents => (write made path contents).toOption.getD made
  | (made, _), _ => made

end Stanza.Files
