import Stanza.Schema

set_option autoImplicit false

/-!
The registry holds the schema of every resource and data-source type, with the provider
that declared it. Only records are registered, each type once for its kind, and a record
without a marker becomes a stanza body, so that every registered schema stands in braces.
-/

namespace Stanza

/-- Whether a declaration is managed or only read. -/
inductive EntityKind where
  | resource
  | dataSource
deriving DecidableEq, Repr

namespace EntityKind

/-- The word that opens a stanza. -/
def keyword : EntityKind → String
  | .resource => "resource"
  | .dataSource => "data"

/-- The words for the kind in messages. -/
def label : EntityKind → String
  | .resource => "resource"
  | .dataSource => "data source"

end EntityKind

/-- A registered type: who declared it, and its schema. -/
structure RegisteredType where
  provider : String
  schema : Schema

/-- The declarations of one provider, as its document lists them. -/
structure ProviderDocument where
  provider : String
  resources : Table Schema
  dataSources : Table Schema

inductive RegistryError where
  | duplicateType (kind : EntityKind) (type first second : String)
  | notARecord (kind : EntityKind) (type found : String)
deriving DecidableEq, Repr

def RegistryError.message : RegistryError → String
  | .duplicateType kind type first second =>
      kind.label ++ " type " ++ type ++ " declared by both " ++ first ++ " and " ++ second
  | .notARecord kind type found =>
      kind.label ++ " type " ++ type ++ " must be a record schema, found " ++ found

/-- The registered types of both kinds, each in order of registration. -/
structure Registry where
  resources : Table RegisteredType
  dataSources : Table RegisteredType

structure Declaration where
  kind : EntityKind
  provider : String
  type : String
  schema : Schema

/-- The declarations of a document: resources first, then data sources. -/
def ProviderDocument.declarations (document : ProviderDocument) : List Declaration :=
  (document.resources.entries.map fun entry =>
      ⟨.resource, document.provider, entry.1, entry.2⟩) ++
    document.dataSources.entries.map fun entry =>
      ⟨.dataSource, document.provider, entry.1, entry.2⟩

namespace Registry

def empty : Registry := ⟨∅, ∅⟩

instance : Inhabited Registry := ⟨empty⟩

def types (registry : Registry) : EntityKind → Table RegisteredType
  | .resource => registry.resources
  | .dataSource => registry.dataSources

def setTypes (registry : Registry) (kind : EntityKind) (table : Table RegisteredType) :
    Registry :=
  match kind with
  | .resource => { registry with resources := table }
  | .dataSource => { registry with dataSources := table }

/-- A stanza body unless the schema is marked already. -/
def braced (schema : Schema) : Schema :=
  if schema.marker = .none then schema.withMarker .resource else schema

/-- Registers one type. A schema that is no record is refused before a repeated type. -/
def register (registry : Registry) (declaration : Declaration) : Except RegistryError Registry :=
  if declaration.schema.isRecord then
    match (registry.types declaration.kind).get? declaration.type with
    | some present =>
        .error (.duplicateType declaration.kind declaration.type
          present.provider declaration.provider)
    | none =>
        .ok (registry.setTypes declaration.kind
          ((registry.types declaration.kind).insert declaration.type
            ⟨declaration.provider, braced declaration.schema⟩))
  else
    .error (.notARecord declaration.kind declaration.type declaration.schema.kind)

/--
Registers declarations in order up to the first that is refused. The registry reached
holds all of them before that one.
-/
def registerAll (registry : Registry) : List Declaration → Registry × Option RegistryError
  | [] => (registry, none)
  | declaration :: rest =>
      match registry.register declaration with
      | .ok next => next.registerAll rest
      | .error error => (registry, some error)

def registerProvider (registry : Registry) (document : ProviderDocument) :
    Registry × Option RegistryError :=
  registry.registerAll document.declarations

/-- Registers whole documents in order; the first refusal fails. -/
def registerProviders (registry : Registry) :
    List ProviderDocument → Except RegistryError Registry
  | [] => .ok registry
  | document :: rest =>
      match registry.registerProvider document with
      | (next, none) => next.registerProviders rest
      | (_, some error) => .error error

def get? (registry : Registry) (kind : EntityKind) (type : String) : Option Schema :=
  ((registry.types kind).get? type).map RegisteredType.schema

def contains (registry : Registry) (kind : EntityKind) (type : String) : Bool :=
  (registry.types kind).contains type

def providerOf? (registry : Registry) (kind : EntityKind) (type : String) : Option String :=
  ((registry.types kind).get? type).map RegisteredType.provider

/-- Appends the names that have not occurred yet. -/
def addNew (seen : List String) (names : List String) : List String :=
  names.foldl (fun seen name => if name ∈ seen then seen else seen ++ [name]) seen

/-- The distinct providers, those of resources before those of data sources only. -/
def providers (registry : Registry) : List String :=
  addNew [] ((registry.resources.values ++ registry.dataSources.values).map
    RegisteredType.provider)

/-- The types of a kind that one provider declared, in order of registration. -/
def typesOf (registry : Registry) (kind : EntityKind) (provider : String) : List String :=
  ((registry.types kind).entries.filter fun entry => entry.2.provider = provider).map Prod.fst

def size (registry : Registry) : Nat := registry.resources.size + registry.dataSources.size

def isEmpty (registry : Registry) : Bool := registry.size == 0

end Registry
end Stanza
