set_option autoImplicit false

/-!
Path names as texts: their parts between slashes, their last name and its extension,
the path of the parent, and the joining of two paths. Nothing is resolved here.
-/

namespace Stanza.Files

/-- The stretches between slashes, empty ones included; there is always at least one. -/
def splitChars : List Char → List (List Char)
  | [] => [[]]
  | c :: rest =>
      if c = '/' then [] :: splitChars rest
      else match splitChars rest with
        | [] => [[c]]
        | part :: parts => (c :: part) :: parts

def splitPath (path : String) : List String := (splitChars path.toList).map String.ofList

def isAbsolute (path : String) : Bool := path.toList.head? == some '/'

/-- Whether a path ends with a slash, so that it can only stand for a directory. -/
def endsWithSlash (path : String) : Bool := path.toList.getLast? == some '/'

/-- The names on the way along a path. -/
def names (path : String) : List String := (splitPath path).filter fun part => part ≠ ""

/-- The names on the way along a path, with a dot for a slash at its end. -/
def steps (path : String) : List String :=
  names path ++ if endsWithSlash path then ["."] else []

/-- Joins a path to a base. An absolute path replaces the base, an empty base adds nothing. -/
def join (base path : String) : String :=
  if isAbsolute path || base = "" then path
  else if endsWithSlash base then base ++ path
  else base ++ "/" ++ path

/-- Drops empty parts and dots at the end, except for the very first part. -/
def trimParts (parts : List String) : List String :=
  match parts with
  | [] => []
  | first :: rest =>
      first :: (rest.reverse.dropWhile fun part => part = "" || part = ".").reverse

/-- The path of the parent; the empty path for a single name. -/
def parent (path : String) : String :=
  match (trimParts (splitPath path)).dropLast with
  | [] => ""
  | parts =>
      let kept := trimParts parts
      if kept = [""] then "/" else "/".intercalate kept

def fileName? (path : String) : Option String :=
  match (trimParts (splitPath path)).getLast? with
  | some name => if name = "" ∨ name = "." ∨ name = ".." then none else some name
  | none => none

/-- The part of a name after its last point, unless that point is the first character. -/
def nameExtension? (name : String) : Option String :=
  let reversed := name.toList.reverse
  let after := reversed.takeWhile fun c => c ≠ '.'
  match reversed.drop after.length with
  | [] => none
  | [_] => none
  | _ => some (String.ofList after.reverse)

def extension? (path : String) : Option String := (fileName? path).bind nameExtension?

end Stanza.Files
