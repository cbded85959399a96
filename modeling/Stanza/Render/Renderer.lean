import Stanza.Render.Numeric
import Stanza.Render.Resolver
import Stanza.Text.Interpolation

set_option autoImplicit false

/-!
Rendering walks a value along its schema and gives the text of the value in the target
language, with the companion stanzas that resolvers added on the way. Null members are
left out. A member whose schema is block-shaped becomes blocks, every other one an
attribute; attribute keys are padded to one width, and blocks stand between blank lines.
-/

namespace Stanza

/-- How an object without a block or resource marker is written. -/
inductive ObjectLayout where
  /-- An opening equals sign and no closing mark. -/
  | legacy
  /-- Braces around the entries. -/
  | braced
deriving DecidableEq, Repr

structure RenderOptions where
  attributeObjects : ObjectLayout := .legacy
deriving DecidableEq, Repr

/-- Rendered text, and the companion stanzas in the order in which they came up. -/
structure Rendered where
  text : String
  companions : List String
deriving DecidableEq, Repr

namespace Render

/-- How often in a row a resolver may answer with a further question. -/
def resolutionLimit : Nat := 16

def indent (level : Nat) : String := String.ofList (List.replicate (2 * level) ' ')

/-- Handles the elements with their indices, counted from `index` on, up to a failure. -/
def forEachFrom {ε α β : Type} (handle : Nat → α → Except ε β) :
    Nat → List α → Except ε (List β)
  | _, [] => .ok []
  | index, item :: rest => do
      let first ← handle index item
      let others ← forEachFrom handle (index + 1) rest
      pure (first :: others)

def mismatch {α : Type} (location : Location) (expected : String) (found : Value) :
    Except RenderError α :=
  .error (.shapeMismatch location expected found.kind)

/-- Renders a value at a level of indentation, a location and a resolution depth. -/
abbrev Child := Schema → Value → Nat → Location → Nat → Except RenderError Rendered

def gather (parts : List Rendered) : List String := parts.flatMap Rendered.companions

/-! ### Lists -/

/-- One item to a line, each with a comma after it. -/
def listText (level : Nat) (items : List String) : String :=
  if items.isEmpty then "[]"
  else
    "[" ++ String.join (items.map fun item => "\n" ++ indent (level + 1) ++ item ++ ",") ++
      "\n" ++ indent level ++ "]"

def renderList (child : Child) (element : Schema) (value : Value) (level : Nat)
    (location : Location) : Except RenderError Rendered :=
  match value.asList? with
  | none => mismatch location "list" value
  | some items => do
      let parts ← forEachFrom
        (fun index item => child element item (level + 1) (location.index index) 0) 0 items
      pure ⟨listText level (parts.map Rendered.text), gather parts⟩

/-! ### Objects -/

/-- Where an object finds the schemas of its members. -/
inductive MemberSchemas where
  | uniform (schema : Schema)
  | declared (fields : List (Field Schema))

def MemberSchemas.find? : MemberSchemas → String → Option Schema
  | .uniform schema, _ => some schema
  | .declared fields, key => Field.find? fields key

def MemberSchemas.quoteKeys : MemberSchemas → Bool
  | .uniform _ => true
  | .declared _ => false

structure Member where
  key : String
  value : Value
  schema : Schema

/-- The members that are not null, with their schemas, in the order of the value. -/
def membersOf (schemas : MemberSchemas) (location : Location)
    (members : List (String × Value)) : Except RenderError (List Member) :=
  (members.filter fun member => !member.2.isNull).mapM fun member =>
    match schemas.find? member.1 with
    | some schema => .ok ⟨member.1, member.2, schema⟩
    | none => .error (.unknownField location member.1)

def attributeKey (quoted : Bool) (key : String) : String :=
  if quoted then Text.literal key else key

/-- The width of a key; block keys count as well, although they are not padded. -/
def Member.width (quoted : Bool) (member : Member) : Nat :=
  match member.schema.blockSchema? with
  | some _ => member.key.length
  | none => (attributeKey quoted member.key).length

def keyWidth (quoted : Bool) (members : List Member) : Nat :=
  (members.map (Member.width quoted)).foldl max 0

def padRight (width : Nat) (text : String) : String :=
  text ++ String.ofList (List.replicate (width - text.length) ' ')

/-- An entry of an object body, and the companions of its value. -/
structure Entry where
  text : String
  isBlock : Bool
  companions : List String

def blockEntry (level : Nat) (key : String) (body : Rendered) : Entry :=
  ⟨indent level ++ key ++ " " ++ body.text, true, body.companions⟩

def attributeEntry (level width : Nat) (key : String) (value : Rendered) : Entry :=
  ⟨indent level ++ padRight width key ++ " = " ++ value.text, false, value.companions⟩

/-- The entries of one member: its blocks, or one attribute. -/
def renderMember (child : Child) (quoted : Bool) (width level : Nat) (location : Location)
    (member : Member) : Except RenderError (List Entry) :=
  let place := location.key member.key
  match member.schema.blockSchema? with
  | some (block, true) =>
      match member.value.asList? with
      | none => mismatch place "list" member.value
      | some items =>
          forEachFrom (fun index item => do
            let body ← child block item level (place.index index) 0
            pure (blockEntry level member.key body)) 0 items
  | some (block, false) => do
      let body ← child block member.value level place 0
      pure [blockEntry level member.key body]
  | none => do
      let value ← child member.schema member.value level place 0
      pure [attributeEntry level width (attributeKey quoted member.key) value]

/-- One entry to a line, with a blank line wherever a block meets a neighbour. -/
def joinEntries : List Entry → String
  | [] => ""
  | [entry] => entry.text
  | entry :: next :: rest =>
      entry.text ++ (if entry.isBlock || next.isBlock then "\n\n" else "\n") ++
        joinEntries (next :: rest)

/-- The body of an object within its opening and closing marks. -/
def bodyText (braced : Bool) (level : Nat) (body : String) : String :=
  if braced then
    "\x7b" ++ (if body = "" then "" else "\n" ++ body) ++ "\n" ++ indent level ++ "\x7d"
  else if body = "" then "="
  else "=\n" ++ body

def renderObject (child : Child) (options : RenderOptions) (schema : Schema)
    (schemas : MemberSchemas) (value : Value) (level : Nat) (location : Location) :
    Except RenderError Rendered :=
  match value.asObject? with
  | none => mismatch location schema.kind value
  | some all => do
      let members ← membersOf schemas location all
      let width := keyWidth schemas.quoteKeys members
      let groups ← members.mapM
        (renderMember child schemas.quoteKeys width (level + 1) location)
      let entries := groups.flatten
      let braced := schema.marker.isBraced || options.attributeObjects == .braced
      pure ⟨bodyText braced level (joinEntries entries), entries.flatMap Entry.companions⟩

/-! ### Unions -/

def renderUnion (child : Child) (resolver : Resolver) (resourceType : String)
    (schema : Schema) (value : Value) (level : Nat) (location : Location) (depth : Nat) :
    Except RenderError Rendered :=
  if resolutionLimit ≤ depth then .error (.resolutionDepthExceeded location depth)
  else
    let consultation := resolver resourceType schema value
    match consultation.answer with
    | .error source => .error (.resolution location source)
    | .ok (.direct text) => .ok ⟨text, consultation.companions⟩
    | .ok (.indirect next inner) => do
        let rest ← child next inner level location (depth + 1)
        pure ⟨rest.text, consultation.companions ++ rest.companions⟩

end Render

/--
Renders values with a resolver. The nesting of a rendering is limited by the height of
its schema, which is enough as long as every answer of the resolver is a part of the
schema it was asked about; `reach` grants further levels to other resolvers.
-/
structure Renderer where
  resolver : Resolver := Resolver.structural
  options : RenderOptions := {}
  reach : Nat := 0

namespace Renderer

open Render

/-- Renders a value at a level and a location, with at most `nesting` schemas on any way down. -/
def renderNode (renderer : Renderer) (resourceType : String) :
    (nesting : Nat) → Schema → Value → (level : Nat) → Location → (depth : Nat) →
      Except RenderError Rendered
  | 0, _, _, _, location, _ => .error (.nestingExhausted location)
  | nesting + 1, schema, value, level, location, depth =>
      let child := renderer.renderNode resourceType nesting
      match schema with
      | .scalar _ .string =>
          match value.asString? with
          | some text => .ok ⟨Text.literal text, []⟩
          | none => mismatch location "string" value
      | .scalar _ .boolean =>
          .ok ⟨match value with | .bool true => "true" | _ => "false", []⟩
      | .scalar _ .number => .ok ⟨numberText value, []⟩
      | .list _ element => renderList child element value level location
      | .dictionary _ element =>
          renderObject child renderer.options schema (.uniform element) value level location
      | .record _ fields =>
          renderObject child renderer.options schema (.declared fields) value level location
      | .union _ _ =>
          renderUnion child renderer.resolver resourceType schema value level location depth

/-- Renders a value of a resource type; errors are located relative to `location`. -/
def renderAt (renderer : Renderer) (resourceType : String) (schema : Schema) (value : Value)
    (location : Location) : Except RenderError Rendered :=
  renderer.renderNode resourceType (schema.height + renderer.reach) schema value 0 location 0

/-- Renders a value of a resource type; errors are located below the name of the type. -/
def render (renderer : Renderer) (resourceType : String) (schema : Schema) (value : Value) :
    Except RenderError Rendered :=
  renderer.renderAt resourceType schema value (.root resourceType)

end Renderer
end Stanza
