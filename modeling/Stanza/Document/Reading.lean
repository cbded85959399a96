import Stanza.Document
import Stanza.Registry

set_option autoImplicit false

/-!
What a document may look like where a text, a map or a value is wanted. The rules are
not the same for all sources, so each kind of source has its record of decisions.
-/

namespace Stanza.Document

inductive DecodeError where
  /-- A union without alternatives, with its name. -/
  | emptyUnion (name : Option String)
  | malformed
deriving DecidableEq, Repr

def DecodeError.message : DecodeError → String
  | .emptyUnion name =>
      "Invalid schema node: union " ++ name.getD "<unnamed>" ++ " has no alternatives"
  | .malformed => "malformed document"

abbrev Decoded (α : Type) := Except DecodeError α

def malformed {α : Type} : Decoded α := .error .malformed

structure Reading where
  /-- Every word is a text where a text is wanted. -/
  wordIsText : Bool := false
  /-- An empty word is an empty map where a map is wanted. -/
  blankIsMap : Bool := false
  /-- Every word for null is an empty map where a map is wanted. -/
  nullIsMap : Bool := false
  /-- A list gives the fields of a structure in their order. -/
  listIsStructure : Bool := false
  /--
  A natural number as key stands for the field or the alternative of that position, and an
  empty map for nothing.
  -/
  indexIsField : Bool := false
  /-- A choice may be written as a map from its name to nothing. -/
  mapIsChoice : Bool := false

namespace Reading

/-- JSON read into its type. -/
def json : Reading := { listIsStructure := true, mapIsChoice := true }

/-- YAML read into its type. -/
def yaml : Reading := { wordIsText := true, blankIsMap := true }

/-- YAML read into a value first. -/
def yamlValue : Reading := { nullIsMap := true }

/-- The parts of a schema below its own name and marker, whatever the source. -/
def inner : Reading := { indexIsField := true, mapIsChoice := true }

def text? (reading : Reading) : Document → Option String
  | .quoted text => some text
  | .word text meaning => if reading.wordIsText || meaning == .text then some text else none
  | _ => none

def text (reading : Reading) (document : Document) : Decoded String :=
  match reading.text? document with
  | some text => .ok text
  | none => malformed

/-- A text that may be absent: a word for null stands for no text. -/
def optionalText (reading : Reading) : Document → Decoded (Option String)
  | .word _ .null => .ok none
  | document => (reading.text document).map some

def entries (reading : Reading) : Document → Decoded (List (Document × Document))
  | .map entries => .ok entries
  | .word text .null =>
      if reading.nullIsMap || (reading.blankIsMap && text = "") then .ok [] else malformed
  | _ => malformed

/-- A natural number, which is written without a minus sign. -/
def index? : Document → Option Nat
  | .word text (.number (.int value)) =>
      if 0 ≤ value ∧ text.toList.head? ≠ some '-' then some value.toNat else none
  | _ => none

/-- Whether a key stands for the field of a name and a position. -/
def isField (reading : Reading) (name : String) (position : Nat) (key : Document) : Bool :=
  reading.text? key == some name || (reading.indexIsField && index? key == some position)

/-- Whether a document may be a key at all. -/
def isKey (reading : Reading) (key : Document) : Bool :=
  (reading.text? key).isSome || (reading.indexIsField && (index? key).isSome)

/--
Decodes the fields of a structure: the entries of a map under the texts of their keys, or
the items of a list under the names in their order. That a list has more items than there
are names is found last.
-/
def structured {α : Type} (reading : Reading) (names : List String)
    (decode : List (String × Document) → Decoded α) (document : Document) : Decoded α :=
  match document with
  | .list items =>
      if reading.listIsStructure then do
        let decoded ← decode (names.zip items)
        if items.length ≤ names.length then pure decoded else malformed
      else malformed
  | other => do
      let entries ← reading.entries other
      let fields ← entries.mapM fun entry => do
        let key ← reading.text entry.1
        pure (key, entry.2)
      decode fields

/-- Whether a document is nothing, as it must be behind the name of a choice. -/
def isNothing (reading : Reading) : Document → Bool
  | .word _ .null => true
  | .map [] => reading.indexIsField
  | _ => false

/-- One of some alternatives, by its text or, as a key, by its position. -/
def choice {α : Type} (reading : Reading) (text : α → String) (alternatives : List α)
    (document : Document) : Decoded α :=
  let named (key : Document) : Option α :=
    (reading.text? key).bind fun name => alternatives.find? fun choice => text choice = name
  let placed (key : Document) : Option α :=
    if reading.indexIsField then (index? key).bind fun position => alternatives[position]?
    else none
  let chosen := match document with
    | .map [(key, content)] =>
        if reading.mapIsChoice && reading.isNothing content then (named key).or (placed key)
        else none
    | other => named other
  match chosen with
  | some choice => .ok choice
  | none => malformed

mutual
/-- A document as a value. Of the entries of a map the last one under a key counts. -/
def value (reading : Reading) : Document → Decoded Value
  | .quoted text => .ok (.string text)
  | .broken => malformed
  | .word text meaning =>
      match meaning with
      | .null => .ok .null
      | .bool value => .ok (.bool value)
      | .number value => .ok (.number value)
      | .undefined => .ok .null
      | .outOfRange => malformed
      | .text => .ok (.string text)
  | .list items => do
      let items ← reading.values items
      pure (.list items)
  | .map entries => do
      let members ← reading.members [] entries
      pure (.object members)
termination_by structural document => document

def values (reading : Reading) : List Document → Decoded (List Value)
  | [] => .ok []
  | item :: rest => do
      let first ← reading.value item
      let others ← reading.values rest
      pure (first :: others)
termination_by structural items => items

def members (reading : Reading) (present : List (String × Value)) :
    List (Document × Document) → Decoded (List (String × Value))
  | [] => .ok present
  | (key, item) :: rest => do
      let key ← reading.text key
      let value ← reading.value item
      reading.members (putEntry key value present) rest
termination_by structural entries => entries
end

end Reading
end Stanza.Document
