import Stanza.Document.Reading
import Stanza.Module

set_option autoImplicit false

/-!
Modules out of documents. All fields may be absent, but no other field may be there,
none twice, and the two names of the data sources count as one.
-/

namespace Stanza.Document

/-- The parts of a module document as far as they are given. -/
structure ModuleParts where
  name : Option (Option String) := none
  stem : Option String := none
  resources : Option Declarations := none
  dataSources : Option Declarations := none

def readInstances (reading : Reading) (document : Document) : Decoded (Table Value) := do
  let entries ← reading.entries document
  entries.foldlM (fun (table : Table Value) entry => do
    let key ← reading.text entry.1
    let value ← reading.value entry.2
    pure (table.insert key value)) ∅

def readDeclarations (reading : Reading) (document : Document) : Decoded Declarations := do
  let entries ← reading.entries document
  entries.foldlM (fun (table : Declarations) entry => do
    let key ← reading.text entry.1
    let instances ← readInstances reading entry.2
    pure (table.insert key instances)) ∅

def readModuleField (reading : Reading) (parts : ModuleParts) (field : String × Document) :
    Decoded ModuleParts :=
  match field.1 with
  | "name" =>
      if parts.name.isSome then malformed
      else (reading.optionalText field.2).map fun name => { parts with name := some name }
  | "prefix" =>
      if parts.stem.isSome then malformed
      else (reading.text field.2).map fun stem => { parts with stem := some stem }
  | "resources" =>
      if parts.resources.isSome then malformed
      else (readDeclarations reading field.2).map fun declared =>
        { parts with resources := some declared }
  | "data_sources" | "dataSources" =>
      if parts.dataSources.isSome then malformed
      else (readDeclarations reading field.2).map fun declared =>
        { parts with dataSources := some declared }
  | _ => malformed

def readModuleFields (reading : Reading) (fields : List (String × Document)) :
    Decoded Module := do
  let parts ← fields.foldlM (readModuleField reading) {}
  pure {
    name := parts.name.getD none
    stem := parts.stem.getD ""
    resources := parts.resources.getD ∅
    dataSources := parts.dataSources.getD ∅ }

def readModule (reading : Reading) : Document → Decoded Module :=
  reading.structured ["name", "prefix", "resources", "data_sources"] (readModuleFields reading)

/-- A document as one module, or as the list of modules that a list holds. -/
def readModules (reading : Reading) : Document → Decoded (List Module)
  | .list items => items.mapM (readModule reading)
  | document => (readModule reading document).map fun module => [module]

end Stanza.Document
