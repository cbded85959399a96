import Stanza.Table

set_option autoImplicit false

/-!
Schemas describe the shape of configuration values. Besides its shape a schema has a
marker, which decides between attribute and block layout, and may have a name.
-/

namespace Stanza

/-- How an object of a schema is laid out: as an attribute, a block, or a stanza body. -/
inductive Marker where
  | none
  | block
  | resource
deriving DecidableEq, Repr

namespace Marker

def text : Marker → String
  | .none => "none"
  | .block => "block"
  | .resource => "resource"

/-- All markers, in the order of their positions. -/
def all : List Marker := [.none, .block, .resource]

/-- The marker that the name of a schema implies. -/
def ofSchemaName (name : String) : Marker :=
  if name = "BlockSchema" then .block
  else if name = "ResourceSchema" then .resource
  else .none

/-- Whether objects of a schema with this marker always stand in braces. -/
def isBraced (marker : Marker) : Bool := marker != .none

end Marker

inductive ScalarKind where
  | string
  | boolean
  | number
deriving DecidableEq, Repr

def ScalarKind.text : ScalarKind → String
  | .string => "string"
  | .boolean => "boolean"
  | .number => "number"

structure Label where
  marker : Marker := .none
  name : Option String := none
deriving DecidableEq, Repr, Inhabited

structure Field (α : Type) where
  name : String
  required : Bool
  schema : α

/--
The description of a value: a scalar, a list of equal elements, a dictionary of equal
values, a record of declared fields, or a union whose alternative is only chosen when
a value is rendered.
-/
inductive Schema where
  | scalar (label : Label) (kind : ScalarKind)
  | list (label : Label) (element : Schema)
  | dictionary (label : Label) (value : Schema)
  | record (label : Label) (fields : List (Field Schema))
  | union (label : Label) (alternatives : List Schema)

/-! ### Fields of a record -/

namespace Field

variable {α : Type}

def put (field : Field α) : List (Field α) → List (Field α)
  | [] => [field]
  | present :: rest =>
      if present.name = field.name then field :: rest else present :: put field rest

/--
The fields of a record composed of required and optional declarations. A name declared
both ways is optional and has the optional schema, at the place of the required one.
-/
def compose (required optional : Table α) : List (Field α) :=
  optional.entries.foldl (fun fields entry => put ⟨entry.1, false, entry.2⟩ fields)
    (required.entries.map fun entry => ⟨entry.1, true, entry.2⟩)

def find? (fields : List (Field α)) (name : String) : Option α :=
  (fields.find? fun field => field.name = name).map Field.schema

def isRequired (fields : List (Field α)) (name : String) : Bool :=
  fields.any fun field => field.name = name && field.required

end Field

/-! ### Parts of a schema -/

namespace Schema

instance : Inhabited Schema := ⟨.scalar default .string⟩

def label : Schema → Label
  | .scalar label _ => label
  | .list label _ => label
  | .dictionary label _ => label
  | .record label _ => label
  | .union label _ => label

def marker (schema : Schema) : Marker := schema.label.marker

def name (schema : Schema) : Option String := schema.label.name

def withLabel (label : Label) : Schema → Schema
  | .scalar _ kind => .scalar label kind
  | .list _ element => .list label element
  | .dictionary _ value => .dictionary label value
  | .record _ fields => .record label fields
  | .union _ alternatives => .union label alternatives

/-- Sets the marker, whatever the name implies. -/
def withMarker (schema : Schema) (marker : Marker) : Schema :=
  schema.withLabel { schema.label with marker := marker }

def named (schema : Schema) (name : String) : Schema :=
  schema.withLabel { schema.label with name := some name }

/-- The word for the kind of a schema in messages and documents. -/
def kind : Schema → String
  | .scalar _ kind => kind.text
  | .list _ _ => "list"
  | .dictionary _ _ => "dictionary"
  | .record _ _ => "record"
  | .union _ _ => "union"

/-- The name, or the kind of a schema without one. -/
def displayName (schema : Schema) : String := schema.name.getD schema.kind

def isBlock (schema : Schema) : Bool := schema.marker == .block

def isRecord : Schema → Bool
  | .record _ _ => true
  | _ => false

/--
The schema of the blocks to which a member of this schema expands, with a flag that
tells whether each element of the member makes one. A block-marked schema is its own
block; a list of block-marked elements repeats the block of its element.
-/
def blockSchema? (schema : Schema) : Option (Schema × Bool) :=
  if schema.isBlock then some (schema, false)
  else match schema with
    | .list _ element => if element.isBlock then some (element, true) else none
    | _ => none

mutual
def height : Schema → Nat
  | .scalar _ _ => 1
  | .list _ element => element.height + 1
  | .dictionary _ value => value.height + 1
  | .record _ fields => heightOfFields fields + 1
  | .union _ alternatives => heightOfAll alternatives + 1
termination_by structural schema => schema

def heightOfFields : List (Field Schema) → Nat
  | [] => 0
  | ⟨_, _, schema⟩ :: rest => max schema.height (heightOfFields rest)
termination_by structural fields => fields

def heightOfAll : List Schema → Nat
  | [] => 0
  | schema :: rest => max schema.height (heightOfAll rest)
termination_by structural schemas => schemas
end

end Schema
end Stanza
