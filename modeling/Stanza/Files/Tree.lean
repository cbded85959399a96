import Stanza.Files.Path
import Stanza.Table
import Stanza.Text.Utf8

set_option autoImplicit false

/-!
File trees: directories of files, further directories and symbolic links. A path is
resolved step by step from the working directory, which is the root of the tree, and
every link on the way is followed. What lies outside the tree does not exist.
-/

namespace Stanza.Files

inductive Entry where
  | file (contents : ByteArray)
  | directory (entries : List (String × Entry))
  | link (target : String)

/-- The entry at the root of a file tree is a directory. -/
abbrev FileTree := Entry

/-- Names from the root down to an entry. -/
abbrev Position := List String

/-- Faults of the device that holds a tree, for which the tree gives no reason. -/
inductive Fault where
  | permissionDenied
  | inputOutput
  | noSpace
deriving DecidableEq, Repr

def Fault.message : Fault → String
  | .permissionDenied => "Permission denied (os error 13)"
  | .inputOutput => "Input/output error (os error 5)"
  | .noSpace => "No space left on device (os error 28)"

inductive FileError where
  | notFound
  | notADirectory
  | isADirectory
  | alreadyExists
  | tooManyLinks
  | nameTooLong
  /-- The path holds the character of number zero. -/
  | zeroCharacter
  /-- A dot does not name a directory that can be removed. -/
  | dotNotRemovable
  | notText
  | device (fault : Fault)
deriving DecidableEq, Repr

def FileError.message : FileError → String
  | .notFound => "No such file or directory (os error 2)"
  | .notADirectory => "Not a directory (os error 20)"
  | .isADirectory => "Is a directory (os error 21)"
  | .alreadyExists => "File exists (os error 17)"
  | .tooManyLinks => "Too many levels of symbolic links (os error 40)"
  | .nameTooLong => "File name too long (os error 36)"
  | .zeroCharacter => "file name contained an unexpected NUL byte"
  | .dotNotRemovable => "Invalid argument (os error 22)"
  | .notText => "stream did not contain valid UTF-8"
  | .device fault => fault.message

/-- The messages of a file operation that failed: that it did, and why. -/
def FileError.chain (error : FileError) : List String :=
  ["IO error: " ++ error.message, error.message]

namespace Entry

instance : Inhabited Entry := ⟨.directory []⟩

def empty : FileTree := .directory []

def isLink : Entry → Bool
  | .link _ => true
  | _ => false

def isFile : Entry → Bool
  | .file _ => true
  | _ => false

def isDirectory : Entry → Bool
  | .directory _ => true
  | _ => false

def removeEntry (name : String) (entries : List (String × Entry)) : List (String × Entry) :=
  entries.filter fun entry => entry.1 ≠ name

/-- The entry at a position, without following links. -/
def at? : Entry → Position → Option Entry
  | entry, [] => some entry
  | .directory entries, name :: rest =>
      match findValue? name entries with
      | some entry => entry.at? rest
      | none => none
  | _, _ :: _ => none

/-- Puts an entry at a position in a directory that exists, or removes the entry there. -/
def set (change : Option Entry) : Position → Entry → Entry
  | [], entry => entry
  | [name], .directory entries =>
      match change with
      | some new => .directory (putEntry name new entries)
      | none => .directory (removeEntry name entries)
  | name :: rest, .directory entries =>
      match findValue? name entries with
      | some entry => .directory (putEntry name (set change rest entry) entries)
      | none => .directory entries
  | _, entry => entry

def sortByName {α : Type} (entries : List (String × α)) : List (String × α) :=
  entries.mergeSort fun left right => decide (left.1 ≤ right.1)

mutual
def size : Entry → Nat
  | .directory entries => sizeOfAll entries + 1
  | _ => 1
termination_by structural entry => entry

def sizeOfAll : List (String × Entry) → Nat
  | [] => 0
  | (_, entry) :: rest => entry.size + sizeOfAll rest
termination_by structural entries => entries
end

end Entry

/-! ### Resolving paths -/

/-- Where a path leads: to an entry, or to a free name in a directory. -/
inductive Target where
  | present (position : Position) (entry : Entry)
  | absent (directory : Position) (name : String)

def Target.position : Target → Position
  | .present position _ => position
  | .absent directory name => directory ++ [name]

/-- Walking stops at an end or at a link, with the names that are left after the link. -/
inductive Walk where
  | done (result : Except FileError Target)
  | follow (directory : Position) (target : String) (rest : List String)

def nameLimit : Nat := 255

def pathLimit : Nat := 4095

/-- Walks from a directory along names, up to a link that is to be followed. -/
def walk (tree : FileTree) (followLast : Bool) : Position → List String → Walk
  | position, [] =>
      match tree.at? position with
      | some entry => .done (.ok (.present position entry))
      | none => .done (.error .notFound)
  | position, name :: rest =>
      if name = "." then walk tree followLast position rest
      else if name = ".." then
        if position = [] then .done (.error .notFound)
        else walk tree followLast position.dropLast rest
      else if nameLimit < name.utf8ByteSize then .done (.error .nameTooLong)
      else
        let here := position ++ [name]
        match tree.at? here with
        | none =>
            if rest = [] then .done (.ok (.absent position name)) else .done (.error .notFound)
        | some (.directory _) => walk tree followLast here rest
        | some (.file contents) =>
            if rest = [] then .done (.ok (.present here (.file contents)))
            else .done (.error .notADirectory)
        | some (.link target) =>
            if rest = [] && !followLast then .done (.ok (.present here (.link target)))
            else .follow position target rest

/-- Resolves names from a directory, following fewer than `links` links. -/
def resolveFrom (tree : FileTree) (followLast : Bool) :
    (links : Nat) → Position → List String → Except FileError Target
  | 0, _, _ => .error .tooManyLinks
  | links + 1, position, names =>
      match walk tree followLast position names with
      | .done result => result
      | .follow directory target rest =>
          if target = "" ∨ isAbsolute target then .error .notFound
          else resolveFrom tree followLast links directory (steps target ++ rest)

/-- At most forty links are followed for one path. -/
def linkLimit : Nat := 41

/-- Why a path leads nowhere in any tree. -/
def pathError? (path : String) : Option FileError :=
  if path.toList.contains '\x00' then some .zeroCharacter
  else if path = "" ∨ isAbsolute path then some .notFound
  else if pathLimit < path.utf8ByteSize then some .nameTooLong
  else none

def resolve (tree : FileTree) (followLast : Bool) (path : String) : Except FileError Target :=
  match pathError? path with
  | some error => .error error
  | none => resolveFrom tree followLast linkLimit [] (steps path)

def lookup (tree : FileTree) (path : String) : Except FileError Entry :=
  match resolve tree true path with
  | .ok (.present _ entry) => .ok entry
  | .ok (.absent _ _) => .error .notFound
  | .error error => .error error

/-! ### Queries -/

def pathExists (tree : FileTree) (path : String) : Bool :=
  match lookup tree path with
  | .ok _ => true
  | .error _ => false

def isFile (tree : FileTree) (path : String) : Bool :=
  match lookup tree path with
  | .ok entry => entry.isFile
  | .error _ => false

def isDirectory (tree : FileTree) (path : String) : Bool :=
  match lookup tree path with
  | .ok entry => entry.isDirectory
  | .error _ => false

def read (tree : FileTree) (path : String) : Except FileError ByteArray :=
  match lookup tree path with
  | .ok (.file contents) => .ok contents
  | .ok (.directory _) => .error .isADirectory
  | .ok (.link _) => .error .notFound
  | .error error => .error error

/-- The contents of a file that holds UTF-8. -/
def readText (tree : FileTree) (path : String) : Except FileError String :=
  match read tree path with
  | .ok contents =>
      match String.fromUTF8? contents with
      | some text => .ok text
      | none => .error .notText
  | .error error => .error error

/-- The contents of any file as text, with replacement characters where it is not UTF-8. -/
def readAnyText (tree : FileTree) (path : String) : Except FileError String :=
  (read tree path).map fun contents => Text.Utf8.decode (contents.toList.map UInt8.toNat)

/-! ### Changes -/

/-- Writes a file, through a link at its name. -/
def write (tree : FileTree) (path : String) (contents : ByteArray) : Except FileError FileTree :=
  match resolve tree true path with
  | .ok (.present position (.file _)) => .ok (tree.set (some (.file contents)) position)
  | .ok (.present _ _) => .error .isADirectory
  | .ok (.absent directory name) =>
      .ok (tree.set (some (.file contents)) (directory ++ [name]))
  | .error error => .error error

def makeDirectory (tree : FileTree) (path : String) : Except FileError FileTree :=
  match pathError? path with
  | some error => .error error
  | none =>
      match resolveFrom tree false linkLimit [] (names path) with
      | .ok (.present _ _) => .error .alreadyExists
      | .ok (.absent directory name) =>
          .ok (tree.set (some (.directory [])) (directory ++ [name]))
      | .error error => .error error

/-- Removes a file or a link. -/
def removeFile (tree : FileTree) (path : String) : Except FileError FileTree :=
  match resolve tree false path with
  | .ok (.present _ (.directory _)) => .error .isADirectory
  | .ok (.present position _) => .ok (tree.set none position)
  | .ok (.absent _ _) => .error .notFound
  | .error error => .error error

/-- Moves a file or a link onto a free name, or onto another file or link. -/
def rename (tree : FileTree) (source target : String) : Except FileError FileTree :=
  match resolve tree false source, resolve tree false target with
  | .error error, _ => .error error
  | _, .error error => .error error
  | .ok (.absent _ _), _ => .error .notFound
  | .ok (.present _ _), .ok (.present _ (.directory _)) => .error .isADirectory
  | .ok (.present origin entry), .ok place =>
      if origin = place.position then .ok tree
      else .ok ((tree.set (some entry) place.position).set none origin)

def clear (tree : FileTree) (position : Position) : FileTree :=
  if position = [] then .empty else tree.set (some .empty) position

/--
Removes an entry, a whole directory as well; a link itself is removed. A directory that
is named by dots is only emptied, which one dot leaves undone and two dots do not.
-/
def remove (tree : FileTree) (path : String) : FileTree × Except FileError Unit :=
  match resolve tree false path with
  | .ok (.present position (.directory _)) =>
      match (names path).getLast? with
      | some "." => (clear tree position, .error .dotNotRemovable)
      | some ".." => (clear tree position, .ok ())
      | _ => (tree.set none position, .ok ())
  | .ok (.present position _) => (tree.set none position, .ok ())
  | .ok (.absent _ _) => (tree, .error .notFound)
  | .error error => (tree, .error error)

/-- Makes a symbolic link at a free name. Its target need not exist, but cannot be empty. -/
def makeLink (tree : FileTree) (path target : String) : Except FileError FileTree :=
  if target = "" then .error .notFound
  else if target.toList.contains '\x00' then .error .zeroCharacter
  else if pathLimit < target.utf8ByteSize then .error .nameTooLong
  else
    match resolve tree false path with
    | .ok (.present _ _) => .error .alreadyExists
    | .ok (.absent directory name) => .ok (tree.set (some (.link target)) (directory ++ [name]))
    | .error error => .error error

/-! ### Listings -/

mutual
/-- The entry of a name and all entries below it, with a mark after directories and links. -/
def listEntry (path : String) : Entry → List String
  | .file _ => [path]
  | .link _ => [path ++ "@"]
  | .directory entries =>
      (path ++ "/") :: ((Entry.sortByName (listEntries (path ++ "/") entries)).map
        Prod.snd).flatten
termination_by structural entry => entry

def listEntries (base : String) : List (String × Entry) → List (String × List String)
  | [] => []
  | (name, entry) :: rest => (name, listEntry (base ++ name) entry) :: listEntries base rest
termination_by structural entries => entries
end

/-- All entries below a directory, depth first and by name. -/
def listing (base : String) : Entry → List String
  | .directory entries => ((Entry.sortByName (listEntries base entries)).map Prod.snd).flatten
  | _ => []

end Stanza.Files
