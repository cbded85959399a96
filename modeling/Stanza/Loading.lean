import Stanza.Document.Json
import Stanza.Document.ModuleDocument
import Stanza.Document.SchemaDocument
import Stanza.Document.SettingsDocument
import Stanza.Files.Documents
import Stanza.Text.Quoted
import Stanza.Yaml.Tree

set_option autoImplicit false

/-!
Registries, modules and settings out of files. A name that ends in `json` stands for
JSON, any other for YAML.
-/

namespace Stanza

open Document (Reading DecodeError)
open Files

/-- Decodes the document of a text, of which nothing may be out of form. -/
def decodeWith {α : Type} (read? : String → Option Document)
    (decode : Document → Document.Decoded α) (text : String) : Option α :=
  (read? text).bind fun document => (decode document).toOption

def isJsonPath (path : String) : Bool := extension? path == some "json"

/-! ### Registries -/

inductive SchemaError where
  | notFound (path : String)
  | registry (error : RegistryError)
  /-- A file is no provider document. -/
  | parse (path : String)
  | unreadable (error : Option FileError)
deriving DecidableEq, Repr

def SchemaError.chain : SchemaError → List String
  | .notFound path => ["Schema source not found: " ++ path]
  | .registry error => [error.message]
  | .parse path =>
      ["Failed to parse schema document " ++ Text.quoted path ++ ": malformed document"]
  | .unreadable (some error) => error.chain
  | .unreadable none => ["IO error: the directory cannot be searched"]

/-- The schema document in a text: a provider and its types. -/
def readProviderText (isJson : Bool) (text : String) : Option ProviderDocument :=
  let known (reading : Reading) (limit : Nat) (document : Document) : Option Document :=
    (Document.withoutUnknownFields reading document).within? limit
  if isJson then
    decodeWith (fun text => (Document.Json.parse? text).bind (known .json Document.Json.depthLimit))
      (Document.readProvider .json) text
  else
    decodeWith (fun text => (Yaml.parse? text).bind (known .yaml Yaml.depthLimit))
      (Document.readProvider .yaml) text

def loadProvider (tree : FileTree) (path : String) : Except SchemaError ProviderDocument :=
  match readText tree path with
  | .error error => .error (.unreadable (some error))
  | .ok text =>
      match readProviderText (isJsonPath path) text with
      | some document => .ok document
      | none => .error (.parse path)

def registerFiles (tree : FileTree) : Registry → List String → Except SchemaError Registry
  | registry, [] => .ok registry
  | registry, path :: rest => do
      let document ← loadProvider tree path
      match registry.registerProvider document with
      | (next, none) => registerFiles tree next rest
      | (_, some error) => .error (.registry error)

/-- The registry of a schema document, or of all documents below a directory. -/
def loadRegistry (tree : FileTree) (path : String) : Except SchemaError Registry :=
  if pathExists tree path then
    match documentFiles tree path with
    | .ok files => registerFiles tree .empty files
    | .error _ => .error (.unreadable none)
  else .error (.notFound path)

/-! ### Modules -/

inductive ModuleError where
  | notFound (path : String)
  /-- What is at the path holds no modules. -/
  | malformed (path : String)
  | unreadable (error : FileError)
deriving DecidableEq, Repr

def ModuleError.chain : ModuleError → List String
  | .notFound path =>
      ["Invalid module document " ++ Text.quoted path ++ ": path does not exist"]
  | .malformed path =>
      ["Invalid module document " ++ Text.quoted path ++ ": malformed document"]
  | .unreadable error => error.chain

/-- YAML in the form of a value: no key twice in a map, and every number in range. -/
def readYamlValue? (text : String) : Option Document :=
  (Yaml.read? text).bind fun document =>
    if document.repeatsKey || !document.inRange then none else some document

/-- JSON in the form of a value: of the members of an object the last one under a key counts. -/
def readJsonValue? (text : String) : Option Document :=
  (decodeWith Document.Json.read? Reading.json.value text).map Document.ofValue

/-- The modules in the text of a module file. -/
def readModulesText (isJson : Bool) : String → Option (List Module) :=
  if isJson then decodeWith readJsonValue? (Document.readModules .json)
  else decodeWith readYamlValue? (Document.readModules .yamlValue)

/--
Names the modules of a file that have no name: by the path, with a number when they are
several.
-/
def nameModules (path : String) (modules : List Module) : List Module :=
  modules.zipIdx.map fun (module, index) =>
    match module.name with
    | some _ => module
    | none =>
        module.withName (if modules.length > 1 then path ++ "#" ++ toString index else path)

def loadModuleFile (tree : FileTree) (path : String) : Except ModuleError (List Module) :=
  match readText tree path with
  | .error error => .error (.unreadable error)
  | .ok text =>
      match readModulesText (isJsonPath path) text with
      | some modules => .ok (nameModules path modules)
      | none => .error (.malformed path)

/-- The modules of a module document, or of all documents below a directory. -/
def loadModules (tree : FileTree) (path : String) : Except ModuleError (List Module) :=
  if pathExists tree path then
    match documentFiles tree path with
    | .ok files => do
        let groups ← files.mapM (loadModuleFile tree)
        pure groups.flatten
    | .error place => .error (.malformed place)
  else .error (.notFound path)

/-! ### Settings -/

inductive SettingsError where
  | unreadable (path : String) (error : FileError)
  | malformed (path : String)
deriving DecidableEq, Repr

def SettingsError.chain : SettingsError → List String
  | .unreadable path error =>
      ["Configuration error: cannot read " ++ path ++ ": " ++ error.message]
  | .malformed path => ["Configuration error: " ++ path ++ ": malformed document"]

/-- The settings in a project file, whose relative paths start at its directory. -/
def loadSettings (tree : FileTree) (path : String) : Except SettingsError Settings :=
  match readText tree path with
  | .error error => .error (.unreadable path error)
  | .ok text =>
      match decodeWith Yaml.read? (Document.readSettings .yaml) text with
      | some settings => .ok (settings.relativeTo (parent path))
      | none => .error (.malformed path)

end Stanza
