import Stanza.Files.Tree

set_option autoImplicit false

/-!
The disk under a file tree. It may fail to make a directory, to read a file or to write
one although nothing in the tree stands in the way, and a write may fail after some of
the bytes are stored. Which operations fail is an argument.
-/

namespace Stanza.Files

/-- A write that fails. Unless the file could not be opened, its first bytes are stored. -/
structure WriteFault where
  fault : Fault
  stored : Option Nat

/-- The faults of a disk, by the tree that it holds and the path of the operation. -/
structure Disk where
  makeFault? : FileTree → String → Option Fault
  readFault? : FileTree → String → Option Fault
  writeFault? : FileTree → String → Option WriteFault

namespace Disk

def sound : Disk := ⟨fun _ _ => none, fun _ _ => none, fun _ _ => none⟩

def makeDirectory (disk : Disk) (tree : FileTree) (path : String) : Except FileError FileTree :=
  match disk.makeFault? tree path with
  | some fault => .error (.device fault)
  | none => Files.makeDirectory tree path

def read (disk : Disk) (tree : FileTree) (path : String) : Except FileError ByteArray :=
  match disk.readFault? tree path with
  | some fault => .error (.device fault)
  | none => Files.read tree path

/-- Writes a file. A write that fails on the way leaves the bytes that were stored. -/
def write (disk : Disk) (tree : FileTree) (path : String) (contents : ByteArray) :
    FileTree × Except FileError Unit :=
  match disk.writeFault? tree path with
  | none =>
      match Files.write tree path contents with
      | .ok next => (next, .ok ())
      | .error error => (tree, .error error)
  | some ⟨fault, none⟩ => (tree, .error (.device fault))
  | some ⟨fault, some count⟩ =>
      match Files.write tree path (contents.extract 0 count) with
      | .ok next => (next, .error (.device fault))
      | .error error => (tree, .error error)

/-- Makes a directory, or leaves one that exists already as it is. -/
def ensureDirectory (disk : Disk) (tree : FileTree) (path : String) :
    FileTree × Except FileError Unit :=
  match disk.makeDirectory tree path with
  | .ok next => (next, .ok ())
  | .error error => (tree, if isDirectory tree path then .ok () else .error error)

/--
Makes a directory and the missing ones above it. `depth` bounds the number of parents
that are tried. What was made above a directory that cannot be made stays.
-/
def makeDirectoriesFrom (disk : Disk) (tree : FileTree) (path : String) :
    (depth : Nat) → FileTree × Except FileError Unit
  | 0 => (tree, .ok ())
  | depth + 1 =>
      if path = "" then (tree, .ok ())
      else
        match disk.makeDirectory tree path with
        | .error .notFound =>
            match disk.makeDirectoriesFrom tree (parent path) depth with
            | (next, .ok ()) => disk.ensureDirectory next path
            | failed => failed
        | _ => disk.ensureDirectory tree path

def makeDirectories (disk : Disk) (tree : FileTree) (path : String) :
    FileTree × Except FileError Unit :=
  if isAbsolute path then (tree, .error .notFound)
  else disk.makeDirectoriesFrom tree path (path.length + 1)

end Disk

/-- Makes a directory and the missing ones above it on a disk without faults. -/
def makeDirectories (tree : FileTree) (path : String) : FileTree × Except FileError Unit :=
  Disk.sound.makeDirectories tree path

end Stanza.Files
