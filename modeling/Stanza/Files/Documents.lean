import Stanza.Files.Tree

set_option autoImplicit false

/-!
The documents below a directory: every file whose name ends in `yaml`, `yml` or `json`,
at any depth, in order of the names. Links are followed; a link that leads nowhere, or
back to a directory that is being visited, fails the search at its path.
-/

namespace Stanza.Files

def documentExtensions : List String := ["yaml", "yml", "json"]

def isDocumentName (name : String) : Bool :=
  match nameExtension? name with
  | some ending => documentExtensions.contains ending
  | none => false

/-- The paths of documents, or the path at which a search failed. -/
abbrev Found := Except String (List String)

/-- Puts what was found under each name together, in order of the names. -/
def collect (found : List (String × Found)) : Found := do
  let groups ← (Entry.sortByName found).mapM Prod.snd
  pure groups.flatten

/-- Goes on at a link: the positions of the directories being visited, its path, its position. -/
abbrev LinkSearch := List Position → String → Position → Found

mutual
/-- The documents at an entry of a name. -/
def searchEntry (atLink : LinkSearch) (visited : List Position) (path name : String)
    (position : Position) : Entry → Found
  | .file _ => .ok (if isDocumentName name then [path] else [])
  | .link _ => atLink visited path position
  | .directory entries =>
      collect (searchEntries atLink (position :: visited) path position entries)
termination_by structural entry => entry

def searchEntries (atLink : LinkSearch) (visited : List Position) (path : String)
    (position : Position) : List (String × Entry) → List (String × Found)
  | [] => []
  | (name, entry) :: rest =>
      (name, searchEntry atLink visited (join path name) name (position ++ [name]) entry) ::
        searchEntries atLink visited path position rest
termination_by structural entries => entries
end

/-- Follows a link to a file or into a directory, `links` of them within each other at most. -/
def searchLink (tree : FileTree) : (links : Nat) → LinkSearch
  | 0, _, path, _ => .error path
  | links + 1, visited, path, position =>
      match resolveFrom tree true linkLimit [] position with
      | .ok (.present _ (.file _)) =>
          .ok (if isDocumentName (position.getLastD "") then [path] else [])
      | .ok (.present target (.directory entries)) =>
          if target ∈ visited then .error path
          else collect (searchEntries (searchLink tree links) (target :: visited) path target
            entries)
      | _ => .error path

/--
The documents at a path: the file itself, whatever its name, or those below a directory.
Links within each other lead to different directories, so that their number is bounded
by the size of the tree.
-/
def documentFiles (tree : FileTree) (path : String) : Found :=
  match resolve tree true path with
  | .ok (.present _ (.file _)) => .ok [path]
  | .ok (.present position (.directory entries)) =>
      collect (searchEntries (searchLink tree (tree.size + 1)) [position] path position entries)
  | _ => .error path

end Stanza.Files
