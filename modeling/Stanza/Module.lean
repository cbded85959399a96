import Stanza.Registry
import Stanza.Render.Renderer
import Stanza.Text.Stanzas

set_option autoImplicit false

/-!
A module declares instances of resource and data-source types. Compiling it gives one
stanza for each instance, in order of declaration, and lets the companion stanzas that
came up follow its data sources.
-/

namespace Stanza

/-- Declared instances of one kind: type, then instance name, then value. -/
abbrev Declarations := Table (Table Value)

structure Module where
  /-- The name in messages. -/
  name : Option String := none
  /-- What stands before every instance name in an address. -/
  stem : String := ""
  resources : Declarations := ∅
  dataSources : Declarations := ∅

namespace Module

instance : Inhabited Module := ⟨{}⟩

def declarations (module : Module) : EntityKind → Declarations
  | .resource => module.resources
  | .dataSource => module.dataSources

/-- Declares an instance, in place of one of the same type and name. -/
def declare (declarations : Declarations) (type name : String) (value : Value) : Declarations :=
  declarations.insert type (((declarations.get? type).getD ∅).insert name value)

def withName (module : Module) (name : String) : Module := { module with name := some name }

def withStem (module : Module) (stem : String) : Module := { module with stem := stem }

def withResource (module : Module) (type name : String) (value : Value) : Module :=
  { module with resources := declare module.resources type name value }

def withDataSource (module : Module) (type name : String) (value : Value) : Module :=
  { module with dataSources := declare module.dataSources type name value }

/-- The name in messages, also of a module without one. -/
def label (module : Module) : String := module.name.getD "<unnamed>"

def address (module : Module) (name : String) : String := module.stem ++ name

def count (module : Module) (kind : EntityKind) : Nat :=
  ((module.declarations kind).values.map Table.size).foldl (· + ·) 0

/-- The module as a value, as documents hold it. -/
def toValue (module : Module) : Value :=
  let name := match module.name with
    | some name => [("name", Value.string name)]
    | none => []
  .object (name ++ [
    ("prefix", .string module.stem),
    ("resources", .ofTable (module.resources.map Value.ofTable)),
    ("data_sources", .ofTable (module.dataSources.map Value.ofTable))])

end Module

inductive CompileError where
  | undeclaredType (kind : EntityKind) (type module : String)
  | render (error : RenderError)
deriving DecidableEq, Repr

namespace CompileError

def message : CompileError → String
  | .undeclaredType kind type module =>
      "Undeclared " ++ kind.label ++ " type " ++ type ++ " in module " ++ module
  | .render error => error.message

def chain : CompileError → List String
  | .undeclaredType kind type module => [(undeclaredType kind type module).message]
  | .render error => error.chain

end CompileError

structure ModuleText where
  resources : String
  dataSources : String
deriving DecidableEq, Repr

structure Compiler where
  registry : Registry
  renderer : Renderer

namespace Compiler

/-- The stanza of one instance around its rendered body. -/
def stanzaText (kind : EntityKind) (type address body : String) : String :=
  kind.keyword ++ " \"" ++ type ++ "\" \"" ++ address ++ "\" " ++ body

def compileInstance (compiler : Compiler) (kind : EntityKind) (module : Module)
    (type : String) (schema : Schema) (entry : String × Value) :
    Except CompileError Rendered :=
  let address := module.address entry.1
  match compiler.renderer.renderAt type schema entry.2 (.root (type ++ "." ++ address)) with
  | .ok rendered => .ok ⟨stanzaText kind type address rendered.text, rendered.companions⟩
  | .error error => .error (.render error)

/-- The stanzas of the instances of one type. The type must be registered, even without any. -/
def compileType (compiler : Compiler) (kind : EntityKind) (module : Module)
    (entry : String × Table Value) : Except CompileError (List Rendered) :=
  match compiler.registry.get? kind entry.1 with
  | none => .error (.undeclaredType kind entry.1 module.label)
  | some schema =>
      entry.2.entries.mapM (compiler.compileInstance kind module entry.1 schema)

def compileKind (compiler : Compiler) (module : Module) (kind : EntityKind) :
    Except CompileError (List Rendered) := do
  let groups ← (module.declarations kind).entries.mapM (compiler.compileType kind module)
  pure groups.flatten

/-- Compiles a module: resources, data sources, and the companions of both after these. -/
def compile (compiler : Compiler) (module : Module) : Except CompileError ModuleText := do
  let resources ← compiler.compileKind module .resource
  let dataSources ← compiler.compileKind module .dataSource
  let companions := resources.flatMap Rendered.companions ++
    dataSources.flatMap Rendered.companions
  pure {
    resources := Text.joinStanzas (resources.map Rendered.text)
    dataSources := Text.joinStanzas (dataSources.map Rendered.text ++ companions) }

end Compiler
end Stanza
