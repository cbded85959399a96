import Stanza.Document.Reading

set_option autoImplicit false

/-!
Schemas and providers out of documents. A schema document is a map with a kind, at will
a name and a marker, and the parts that its kind asks for; keys of no meaning are passed
over. A marker that is given wins over the one that the name implies.
-/

namespace Stanza.Document

inductive SchemaKind where
  | scalar (kind : ScalarKind)
  | list
  | dictionary
  | record
  | union
deriving DecidableEq, Repr

namespace SchemaKind

def all : List (String × SchemaKind) :=
  [("string", .scalar .string), ("boolean", .scalar .boolean), ("number", .scalar .number),
    ("list", .list), ("dictionary", .dictionary), ("record", .record), ("union", .union)]

def ofText? (text : String) : Option SchemaKind := findValue? text all

def read (document : Document) : Decoded SchemaKind :=
  let kind := match Reading.index? document with
    | some position => all[position]?.map Prod.snd
    | none => (Reading.inner.text? document).bind ofText?
  match kind with
  | some kind => .ok kind
  | none => malformed

end SchemaKind

/-! ### Name, marker and kind -/

/-- The name and the marker as far as they are given. -/
structure Heading where
  name : Option (Option String) := none
  marker : Option (Option Marker) := none

def readMarker (reading : Reading) : Document → Decoded (Option Marker)
  | .word _ .null => .ok none
  | document => (reading.choice Marker.text Marker.all document).map some

/--
Takes in one entry. Neither name nor marker may come twice, and what else is there must be
such that it can be held.
-/
def readHeadingEntry (reading : Reading) (heading : Heading) (entry : Document × Document) :
    Decoded Heading :=
  if reading.isKey entry.1 then
    match reading.text? entry.1 with
    | some "name" =>
        if heading.name.isSome then malformed
        else (reading.optionalText entry.2).map fun name => { heading with name := some name }
    | some "marker" =>
        if heading.marker.isSome then malformed
        else (readMarker reading entry.2).map fun marker =>
          { heading with marker := some marker }
    | _ => if entry.1.inRange && entry.2.inRange then .ok heading else malformed
  else malformed

def readHeading (reading : Reading) (entries : List (Document × Document)) : Decoded Heading :=
  entries.foldlM (readHeadingEntry reading) {}

/-- The label of a heading: the marker given, else the one that the name implies. -/
def Heading.label (heading : Heading) : Label :=
  let name := heading.name.getD none
  let implied := match name with
    | some name => Marker.ofSchemaName name
    | none => .none
  { marker := (heading.marker.getD none).getD implied, name := name }

/-- The kind among the entries; it must be there once. -/
def readKind (reading : Reading) :
    Option SchemaKind → List (Document × Document) → Decoded SchemaKind
  | some kind, [] => .ok kind
  | none, [] => malformed
  | found, (key, value) :: rest =>
      if reading.text? key = some "kind" then
        match found with
        | some _ => malformed
        | none => do
            let kind ← SchemaKind.read value
            readKind reading (some kind) rest
      else readKind reading found rest

/-- The required and the optional fields of a record as far as they are given. -/
structure FieldTables where
  required : Option (Table Schema) := none
  optional : Option (Table Schema) := none

/-! ### Schemas -/

mutual
def readSchema (reading : Reading) : Document → Decoded Schema
  | .map entries => do
      let heading ← readHeading reading entries
      let label := heading.label
      let kind ← readKind reading none entries
      match kind with
      | .scalar kind => pure (.scalar label kind)
      | .list => do
          let element ← readChild reading "element" none entries
          pure (.list label element)
      | .dictionary => do
          let value ← readChild reading "value" none entries
          pure (.dictionary label value)
      | .record => do
          let tables ← readFieldTables reading {} entries
          pure (.record label (Field.compose (tables.required.getD ∅) (tables.optional.getD ∅)))
      | .union => do
          let alternatives ← readAlternatives reading none entries
          if alternatives.isEmpty then .error (.emptyUnion label.name)
          else pure (.union label alternatives)
  | _ => malformed
termination_by structural document => document

/-- The only part of a list or a dictionary; it must be there once. -/
def readChild (reading : Reading) (name : String) :
    Option Schema → List (Document × Document) → Decoded Schema
  | some schema, [] => .ok schema
  | none, [] => malformed
  | found, (key, value) :: rest =>
      if reading.isField name 0 key then
        match found with
        | some _ => malformed
        | none => do
            let schema ← readSchema Reading.inner value
            readChild reading name (some schema) rest
      else readChild reading name found rest
termination_by structural _ entries => entries

/-- The required and optional fields of a record; each may be there once. -/
def readFieldTables (reading : Reading) :
    FieldTables → List (Document × Document) → Decoded FieldTables
  | tables, [] => .ok tables
  | tables, (key, value) :: rest =>
      if reading.isField "required" 0 key then
        if tables.required.isSome then malformed
        else do
          let table ← readSchemaTable value
          readFieldTables reading { tables with required := some table } rest
      else if reading.isField "optional" 1 key then
        if tables.optional.isSome then malformed
        else do
          let table ← readSchemaTable value
          readFieldTables reading { tables with optional := some table } rest
      else readFieldTables reading tables rest
termination_by structural _ entries => entries

def readSchemaTable : Document → Decoded (Table Schema)
  | .map entries => readSchemaEntries ∅ entries
  | _ => malformed
termination_by structural document => document

def readSchemaEntries : Table Schema → List (Document × Document) → Decoded (Table Schema)
  | table, [] => .ok table
  | table, (key, value) :: rest => do
      let key ← Reading.inner.text key
      let schema ← readSchema Reading.inner value
      readSchemaEntries (table.insert key schema) rest
termination_by structural _ entries => entries

/-- The alternatives of a union; they must be there once. -/
def readAlternatives (reading : Reading) :
    Option (List Schema) → List (Document × Document) → Decoded (List Schema)
  | some alternatives, [] => .ok alternatives
  | none, [] => malformed
  | found, (key, value) :: rest =>
      if reading.isField "alternatives" 0 key then
        match found with
        | some _ => malformed
        | none => do
            let alternatives ← readSchemaList value
            readAlternatives reading (some alternatives) rest
      else readAlternatives reading found rest
termination_by structural _ entries => entries

def readSchemaList : Document → Decoded (List Schema)
  | .list items => readSchemaItems items
  | _ => malformed
termination_by structural document => document

def readSchemaItems : List Document → Decoded (List Schema)
  | [] => .ok []
  | item :: rest => do
      let first ← readSchema Reading.inner item
      let others ← readSchemaItems rest
      pure (first :: others)
termination_by structural items => items
end

/-! ### Providers -/

/-- The parts of a provider document as far as they are given. -/
structure ProviderParts where
  provider : Option String := none
  resources : Option (Table Schema) := none
  dataSources : Option (Table Schema) := none

def readTypes (reading : Reading) (document : Document) : Decoded (Table Schema) := do
  let entries ← reading.entries document
  entries.foldlM (fun (table : Table Schema) entry => do
    let key ← reading.text entry.1
    let schema ← readSchema reading entry.2
    pure (table.insert key schema)) ∅

def readProviderField (reading : Reading) (parts : ProviderParts) (field : String × Document) :
    Decoded ProviderParts :=
  match field.1 with
  | "provider" =>
      if parts.provider.isSome then malformed
      else (reading.text field.2).map fun provider => { parts with provider := some provider }
  | "resources" =>
      if parts.resources.isSome then malformed
      else (readTypes reading field.2).map fun types => { parts with resources := some types }
  | "data_sources" =>
      if parts.dataSources.isSome then malformed
      else (readTypes reading field.2).map fun types => { parts with dataSources := some types }
  | _ => .ok parts

/-- The declarations in the fields of a provider document; the provider must be named. -/
def readProviderFields (reading : Reading) (fields : List (String × Document)) :
    Decoded ProviderDocument := do
  let parts ← fields.foldlM (readProviderField reading) {}
  match parts.provider with
  | some provider =>
      pure ⟨provider, parts.resources.getD ∅, parts.dataSources.getD ∅⟩
  | none => malformed

def providerFields : List String := ["provider", "resources", "data_sources"]

def readProvider (reading : Reading) : Document → Decoded ProviderDocument :=
  reading.structured providerFields (readProviderFields reading)

/-- A provider document without the fields of no meaning, which are not looked into. -/
def withoutUnknownFields (reading : Reading) : Document → Document
  | .map entries => .map (entries.filter fun entry =>
      match reading.text? entry.1 with
      | some name => providerFields.contains name
      | none => true)
  | document => document

end Stanza.Document
