import Stanza.Module

set_option autoImplicit false

/-!
A project is a list of modules. Its text is the text of its modules in order, and its
manifests list every declared instance by type and address. When two modules declare
one address for a type, a policy decides: the later value replaces the earlier one in
the manifest, or the project is refused.
-/

namespace Stanza

/-- What happens when two modules declare one address for a type. -/
inductive CollisionPolicy where
  | lastWins
  | reject
deriving DecidableEq, Repr

/-- Declared values by type and address. -/
abbrev Manifest := Table (Table Value)

inductive ProjectError where
  | nameCollision (kind : EntityKind) (type address first second : String)
  | compile (error : CompileError)
deriving DecidableEq, Repr

namespace ProjectError

def message : ProjectError → String
  | .nameCollision kind type address first second =>
      kind.label ++ " " ++ type ++ "." ++ address ++ " declared by both " ++ first ++ " and " ++
        second
  | .compile error => error.message

def chain : ProjectError → List String
  | .nameCollision kind type address first second =>
      [(nameCollision kind type address first second).message]
  | .compile error => error.chain

end ProjectError

structure ProjectOutput where
  resourcesText : String
  dataSourcesText : String
  resourcesManifest : Manifest
  dataSourcesManifest : Manifest

def ProjectOutput.manifest (output : ProjectOutput) : EntityKind → Manifest
  | .resource => output.resourcesManifest
  | .dataSource => output.dataSourcesManifest

/-! ### Manifests -/

/-- A declared value with the label of the module that declared it last. -/
structure Claimed where
  value : Value
  owner : String

/-- Values claimed so far, by type and address. -/
abbrev Claims := Table (Table Claimed)

namespace Claims

/-- Claims an address of a type for a value. -/
def claim (policy : CollisionPolicy) (kind : EntityKind) (type address : String)
    (claimed : Claimed) (present : Table Claimed) : Except ProjectError (Table Claimed) :=
  match present.get? address, policy with
  | some earlier, .reject =>
      .error (.nameCollision kind type address earlier.owner claimed.owner)
  | _, _ => .ok (present.insert address claimed)

/-- Claims the addresses of all instances that a module declares for a type. -/
def claimInstances (policy : CollisionPolicy) (kind : EntityKind) (module : Module)
    (type : String) : Table Claimed → List (String × Value) → Except ProjectError (Table Claimed)
  | present, [] => .ok present
  | present, (name, value) :: rest => do
      let next ← claim policy kind type (module.address name) ⟨value, module.label⟩ present
      claimInstances policy kind module type next rest

/-- Claims the instances of all types of a kind that are registered; others are left out. -/
def claimTypes (policy : CollisionPolicy) (registry : Registry) (kind : EntityKind)
    (module : Module) : Claims → List (String × Table Value) → Except ProjectError Claims
  | claims, [] => .ok claims
  | claims, (type, instances) :: rest =>
      if registry.contains kind type then do
        let present := (claims.get? type).getD ∅
        let next ← claimInstances policy kind module type present instances.entries
        claimTypes policy registry kind module (claims.insert type next) rest
      else claimTypes policy registry kind module claims rest

def claimModules (policy : CollisionPolicy) (registry : Registry) (kind : EntityKind) :
    Claims → List Module → Except ProjectError Claims
  | claims, [] => .ok claims
  | claims, module :: rest => do
      let next ← claimTypes policy registry kind module claims (module.declarations kind).entries
      claimModules policy registry kind next rest

/-- The claimed values without their owners. -/
def manifest (claims : Claims) : Manifest :=
  claims.map fun instances => instances.map Claimed.value

end Claims

def buildManifest (policy : CollisionPolicy) (registry : Registry) (modules : List Module)
    (kind : EntityKind) : Except ProjectError Manifest := do
  let claims ← Claims.claimModules policy registry kind ∅ modules
  pure claims.manifest

/-! ### The whole project -/

/-- When the modules of a project are compiled. -/
inductive Schedule where
  /-- One after the other, up to the first that fails. -/
  | sequential
  /-- At the same time; they complete in the order of these positions. -/
  | concurrent (completion : List Nat)
deriving DecidableEq, Repr

def failure? {ε α : Type} : Except ε α → Option ε
  | .ok _ => none
  | .error error => some error

/-- Results in the order of the modules; the first that fails decides the error. -/
def collectInOrder (results : List (Except CompileError ModuleText)) :
    Except CompileError (List ModuleText) :=
  results.mapM id

/-- Results in the order of the modules; the failure that is seen first decides the error. -/
def collectAsCompleted (completion : List Nat)
    (results : List (Except CompileError ModuleText)) : Except CompileError (List ModuleText) :=
  match completion.findSome? fun position => results[position]?.bind failure? with
  | some error => .error error
  | none => collectInOrder results

def compileModules (schedule : Schedule) (compiler : Compiler) (modules : List Module) :
    Except CompileError (List ModuleText) :=
  match schedule with
  | .sequential => collectInOrder (modules.map compiler.compile)
  | .concurrent completion => collectAsCompleted completion (modules.map compiler.compile)

/-- Builds both manifests, then compiles all modules and joins their texts. -/
def buildProject (policy : CollisionPolicy) (schedule : Schedule) (compiler : Compiler)
    (modules : List Module) : Except ProjectError ProjectOutput := do
  let resources ← buildManifest policy compiler.registry modules .resource
  let dataSources ← buildManifest policy compiler.registry modules .dataSource
  match compileModules schedule compiler modules with
  | .error error => .error (.compile error)
  | .ok texts =>
      pure {
        resourcesText := Text.joinStanzas (texts.map ModuleText.resources)
        dataSourcesText := Text.joinStanzas (texts.map ModuleText.dataSources)
        resourcesManifest := resources
        dataSourcesManifest := dataSources }

end Stanza
