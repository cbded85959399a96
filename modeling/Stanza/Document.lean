import Stanza.Value

set_option autoImplicit false

/-!
Documents as they are written, before anything is expected of them. A word stands
without quotes and has a meaning besides its text; a quoted text is only a text, or
broken when it stands for none. Maps keep every entry, also under a repeated key, and
their keys may be any document.
-/

namespace Stanza

/-- What a word without quotes stands for. -/
inductive Meaning where
  | null
  | bool (value : Bool)
  | number (value : Number)
  /-- A number that is none of the values: an infinity or no number at all. -/
  | undefined
  /-- A numeral that no number of the values can hold. -/
  | outOfRange
  | text
deriving DecidableEq, Repr

inductive Document where
  | word (text : String) (meaning : Meaning)
  | quoted (text : String)
  /-- A quoted text that holds half of a character. -/
  | broken
  | list (items : List Document)
  | map (entries : List (Document × Document))

namespace Document

instance : Inhabited Document := ⟨.word "" .null⟩

mutual
def ofValue : Value → Document
  | .null => .word "null" .null
  | .bool value => .word (if value then "true" else "false") (.bool value)
  | .number value => .word "" (.number value)
  | .string text => .quoted text
  | .list items => .list (ofItems items)
  | .object members => .map (ofMembers members)
termination_by structural value => value

def ofItems : List Value → List Document
  | [] => []
  | item :: rest => ofValue item :: ofItems rest
termination_by structural items => items

def ofMembers : List (String × Value) → List (Document × Document)
  | [] => []
  | (key, value) :: rest => (.quoted key, ofValue value) :: ofMembers rest
termination_by structural members => members
end

mutual
/-- Whether every number and text in the document can be held. -/
def inRange : Document → Bool
  | .word _ meaning => meaning != .outOfRange
  | .quoted _ => true
  | .broken => false
  | .list items => allInRange items
  | .map entries => entriesInRange entries
termination_by structural document => document

def allInRange : List Document → Bool
  | [] => true
  | item :: rest => item.inRange && allInRange rest
termination_by structural items => items

def entriesInRange : List (Document × Document) → Bool
  | [] => true
  | (key, value) :: rest => key.inRange && value.inRange && entriesInRange rest
termination_by structural entries => entries
end

/-- The text of a key, which is not looked into when it is a list or a map. -/
def keyText : Document → String
  | .word text _ => text
  | .quoted text => text
  | _ => ""

def repeats : List String → Bool
  | [] => false
  | text :: rest => rest.contains text || repeats rest

mutual
def repeatsKey : Document → Bool
  | .word _ _ => false
  | .quoted _ | .broken => false
  | .list items => someRepeatsKey items
  | .map entries => repeats (entries.map fun entry => entry.1.keyText) || entryRepeatsKey entries
termination_by structural document => document

def someRepeatsKey : List Document → Bool
  | [] => false
  | item :: rest => item.repeatsKey || someRepeatsKey rest
termination_by structural items => items

def entryRepeatsKey : List (Document × Document) → Bool
  | [] => false
  | (key, value) :: rest => key.repeatsKey || value.repeatsKey || entryRepeatsKey rest
termination_by structural entries => entries
end

mutual
def depth : Document → Nat
  | .word _ _ => 0
  | .quoted _ | .broken => 0
  | .list items => depthOfAll items + 1
  | .map entries => depthOfEntries entries + 1
termination_by structural document => document

def depthOfAll : List Document → Nat
  | [] => 0
  | item :: rest => max item.depth (depthOfAll rest)
termination_by structural items => items

def depthOfEntries : List (Document × Document) → Nat
  | [] => 0
  | (key, value) :: rest => max (max key.depth value.depth) (depthOfEntries rest)
termination_by structural entries => entries
end

/-- A document whose lists and maps are no deeper within each other than a limit. -/
def within? (limit : Nat) (document : Document) : Option Document :=
  if document.depth ≤ limit then some document else none

end Document
end Stanza
