import Stanza.Proofs.Render.Steps

set_option autoImplicit false

/-!
Outlines are what is left of a rendering without its layout: literals, lists, and bodies
with the parts that their members contribute. An outline is found without a level of
indentation and without options; printing adds the brackets, indentation, padding and
blank lines.
-/

namespace Stanza

open Render

mutual
/-- The content of a rendered value without any layout. -/
inductive Outline where
  | literal (text : String)
  | list (items : List Outline)
  | body (marker : Marker) (parts : List Part)

/-- What one member brings into a body: an assignment, a block, or one block for each of its
elements, which may be none. -/
inductive Part where
  | assignment (key : String) (value : Outline)
  | block (key : String) (content : Outline)
  | blocks (key : String) (contents : List Outline)
end

structure OutlineEntry where
  key : String
  isBlock : Bool
  content : Outline

namespace Part

def key : Part → String
  | .assignment key _ => key
  | .block key _ => key
  | .blocks key _ => key

def entries : Part → List OutlineEntry
  | .assignment key value => [⟨key, false, value⟩]
  | .block key content => [⟨key, true, content⟩]
  | .blocks key contents => contents.map fun content => ⟨key, true, content⟩

end Part

/-! ### Printing -/

namespace Outline

/-- The width of the longest key, whether or not its part has any entries. -/
def columnWidth (parts : List Part) : Nat :=
  (parts.map fun part => part.key.length).foldl max 0

abbrev Printed := Bool × String

/-- Entries below each other, with a blank line beside every block. -/
def stack : List Printed → String
  | [] => ""
  | [entry] => entry.2
  | entry :: next :: rest =>
      entry.2 ++ (if entry.1 || next.1 then "\n\n" else "\n") ++ stack (next :: rest)

def printedBlock (level : Nat) (key text : String) : Printed :=
  (true, indent level ++ key ++ " " ++ text)

def printedAssignment (level width : Nat) (key text : String) : Printed :=
  (false, indent level ++ padRight width key ++ " = " ++ text)

/-- Items between brackets, each on a line of its own with a comma. -/
def bracketed (level : Nat) (items : List String) : String :=
  match items with
  | [] => "[]"
  | _ =>
      "[" ++ String.join (items.map fun item => "\n" ++ indent (level + 1) ++ item ++ ",") ++
        "\n" ++ indent level ++ "]"

/-- Entries of a body between braces, or after an equals sign. -/
def enclosed (braced : Bool) (level : Nat) (entries : List Printed) : String :=
  match braced, entries with
  | true, [] => "\x7b" ++ "\n" ++ indent level ++ "\x7d"
  | true, _ => "\x7b" ++ "\n" ++ stack entries ++ "\n" ++ indent level ++ "\x7d"
  | false, [] => "="
  | false, _ => "=" ++ "\n" ++ stack entries

def isEnclosed (options : RenderOptions) (marker : Marker) : Bool :=
  marker.isBraced || options.attributeObjects == .braced

mutual
/-- The text of an outline whose surroundings stand at a level of indentation. -/
def print (options : RenderOptions) (level : Nat) : Outline → String
  | .literal text => text
  | .list items => bracketed level (printAll options (level + 1) items)
  | .body marker parts =>
      enclosed (isEnclosed options marker) level
        (printParts options (level + 1) (columnWidth parts) parts)
termination_by structural outline => outline

def printAll (options : RenderOptions) (level : Nat) : List Outline → List String
  | [] => []
  | outline :: rest => print options level outline :: printAll options level rest
termination_by structural outlines => outlines

def printPart (options : RenderOptions) (level width : Nat) : Part → List Printed
  | .assignment key value =>
      [printedAssignment level width key (print options level value)]
  | .block key content => [printedBlock level key (print options level content)]
  | .blocks key contents => (printAll options level contents).map (printedBlock level key)
termination_by structural part => part

def printParts (options : RenderOptions) (level width : Nat) : List Part → List Printed
  | [] => []
  | part :: rest =>
      printPart options level width part ++ printParts options level width rest
termination_by structural parts => parts
end

def printEntry (options : RenderOptions) (level width : Nat) (entry : OutlineEntry) : Printed :=
  let text := print options level entry.content
  if entry.isBlock then printedBlock level entry.key text
  else printedAssignment level width entry.key text

end Outline

/-! ### Elaboration -/

structure Collected (α : Type) where
  content : α
  companions : List String

abbrev Elaborator := Schema → Value → Location → Nat → Except RenderError (Collected Outline)

namespace Outline

def collect {α : Type} (items : List (Collected α)) : List String :=
  items.flatMap Collected.companions

def elaborateList (child : Elaborator) (element : Schema) (value : Value)
    (location : Location) : Except RenderError (Collected Outline) :=
  match value.asList? with
  | none => mismatch location "list" value
  | some items => do
      let contents ← forEachFrom
        (fun index item => child element item (location.index index) 0) 0 items
      pure ⟨.list (contents.map Collected.content), collect contents⟩

def elaborateMember (child : Elaborator) (quoted : Bool) (location : Location)
    (member : Member) : Except RenderError (Collected Part) :=
  let place := location.key member.key
  match member.schema.blockSchema? with
  | some (block, true) =>
      match member.value.asList? with
      | none => mismatch place "list" member.value
      | some items => do
          let contents ← forEachFrom
            (fun index item => child block item (place.index index) 0) 0 items
          pure ⟨.blocks member.key (contents.map Collected.content), collect contents⟩
  | some (block, false) => do
      let content ← child block member.value place 0
      pure ⟨.block member.key content.content, content.companions⟩
  | none => do
      let value ← child member.schema member.value place 0
      pure ⟨.assignment (attributeKey quoted member.key) value.content, value.companions⟩

def elaborateObject (child : Elaborator) (schema : Schema) (schemas : MemberSchemas)
    (value : Value) (location : Location) : Except RenderError (Collected Outline) :=
  match value.asObject? with
  | none => mismatch location schema.kind value
  | some all => do
      let members ← membersOf schemas location all
      let parts ← members.mapM (elaborateMember child schemas.quoteKeys location)
      pure ⟨.body schema.marker (parts.map Collected.content), collect parts⟩

def elaborateUnion (child : Elaborator) (resolver : Resolver) (resourceType : String)
    (schema : Schema) (value : Value) (location : Location) (depth : Nat) :
    Except RenderError (Collected Outline) :=
  if resolutionLimit ≤ depth then .error (.resolutionDepthExceeded location depth)
  else
    let consultation := resolver resourceType schema value
    match consultation.answer with
    | .error source => .error (.resolution location source)
    | .ok (.direct text) => .ok ⟨.literal text, consultation.companions⟩
    | .ok (.indirect next inner) => do
        let rest ← child next inner location (depth + 1)
        pure ⟨rest.content, consultation.companions ++ rest.companions⟩

/-- The outline of a value, with at most `nesting` schemas on any way down. Neither options
nor a level of indentation come into it. -/
def elaborate (resolver : Resolver) (resourceType : String) : (nesting : Nat) → Elaborator
  | 0, _, _, location, _ => .error (.nestingExhausted location)
  | nesting + 1, schema, value, location, depth =>
      let child := elaborate resolver resourceType nesting
      match schema with
      | .scalar _ .string =>
          match value.asString? with
          | some text => .ok ⟨.literal (Text.literal text), []⟩
          | none => mismatch location "string" value
      | .scalar _ .boolean =>
          .ok ⟨.literal (match value with | .bool true => "true" | _ => "false"), []⟩
      | .scalar _ .number => .ok ⟨.literal (numberText value), []⟩
      | .list _ element => elaborateList child element value location
      | .dictionary _ element => elaborateObject child schema (.uniform element) value location
      | .record _ fields => elaborateObject child schema (.declared fields) value location
      | .union _ _ => elaborateUnion child resolver resourceType schema value location depth

end Outline
end Stanza
