import Stanza.Registry

set_option autoImplicit false

/-!
Runs of a registry: sequences of calls on the empty registry, successful or not. In every
registry that is reached, each stored schema is a record that stands in braces.
-/

namespace Stanza

/-- A call on a registry: one declaration, or all declarations of a provider. -/
inductive RegistryCall where
  | declaration (declaration : Declaration)
  | document (document : ProviderDocument)

namespace Registry

/-! ### Tables of a registry -/

@[simp] theorem types_setTypes (registry : Registry) (kind other : EntityKind)
    (table : Table RegisteredType) :
    (registry.setTypes kind table).types other =
      if other = kind then table else registry.types other := by
  cases kind <;> cases other <;> rfl

@[simp] theorem types_empty (kind : EntityKind) : empty.types kind = ∅ := by
  cases kind <;> rfl

/-! ### One registration -/

theorem register_eq_ok_iff (registry next : Registry) (declaration : Declaration) :
    registry.register declaration = .ok next ↔
      declaration.schema.isRecord = true ∧
        (registry.types declaration.kind).get? declaration.type = none ∧
        next = registry.setTypes declaration.kind
          ((registry.types declaration.kind).insert declaration.type
            ⟨declaration.provider, braced declaration.schema⟩) := by
  unfold register
  by_cases isRecord : declaration.schema.isRecord = true
  · rw [if_pos isRecord]
    cases (registry.types declaration.kind).get? declaration.type with
    | some present => simp
    | none => simp [isRecord, eq_comm]
  · rw [if_neg isRecord]
    simp [isRecord]

/-- What a call leaves behind. A declaration that is refused leaves the registry as it was. -/
def perform (registry : Registry) : RegistryCall → Registry
  | .declaration declaration =>
      match registry.register declaration with
      | .ok next => next
      | .error _ => registry
  | .document document => (registry.registerProvider document).1

def after (calls : List RegistryCall) : Registry := calls.foldl perform empty

/-! ### From one step to whole runs -/

theorem registerAll_keeps {holds : Registry → Prop}
    (step : ∀ registry next declaration, registry.register declaration = .ok next →
      holds registry → holds next)
    (declarations : List Declaration) (registry : Registry) (before : holds registry) :
    holds (registry.registerAll declarations).1 := by
  induction declarations generalizing registry with
  | nil => exact before
  | cons declaration rest ih =>
      rw [registerAll]
      cases registered : registry.register declaration with
      | error error => exact before
      | ok next => exact ih next (step registry next declaration registered before)

theorem perform_keeps {holds : Registry → Prop}
    (step : ∀ registry next declaration, registry.register declaration = .ok next →
      holds registry → holds next)
    (call : RegistryCall) (registry : Registry) (before : holds registry) :
    holds (registry.perform call) := by
  cases call with
  | declaration declaration =>
      cases registered : registry.register declaration with
      | error error =>
          simp only [perform, registered]
          exact before
      | ok next =>
          simp only [perform, registered]
          exact step registry next declaration registered before
  | document document => exact registerAll_keeps step document.declarations registry before

theorem performAll_keeps {holds : Registry → Prop}
    (step : ∀ registry next declaration, registry.register declaration = .ok next →
      holds registry → holds next)
    (calls : List RegistryCall) (registry : Registry) (before : holds registry) :
    holds (calls.foldl perform registry) := by
  induction calls generalizing registry with
  | nil => exact before
  | cons call rest ih => exact ih (registry.perform call) (perform_keeps step call registry before)

/-- A property of the empty registry that every registration keeps holds after all calls. -/
theorem holds_after {holds : Registry → Prop} (initially : holds empty)
    (step : ∀ registry next declaration, registry.register declaration = .ok next →
      holds registry → holds next)
    (calls : List RegistryCall) : holds (after calls) :=
  performAll_keeps step calls empty initially

/-! ### Stored schemas -/

/-- A schema as the registry stores it: a record in braces. -/
def Storable (schema : Schema) : Prop :=
  schema.isRecord = true ∧ schema.marker.isBraced = true

def Braced (registry : Registry) : Prop :=
  ∀ kind type registered, (registry.types kind).get? type = some registered →
    Storable registered.schema

theorem storable_braced {schema : Schema} (isRecord : schema.isRecord = true) :
    Storable (braced schema) := by
  cases schema with
  | record label fields =>
      obtain ⟨marker, name⟩ := label
      cases marker <;> exact ⟨rfl, rfl⟩
  | scalar label kind => cases isRecord
  | list label element => cases isRecord
  | dictionary label value => cases isRecord
  | union label alternatives => cases isRecord

theorem braced_empty : Braced empty := by
  intro kind type registered found
  rw [types_empty] at found
  cases found

theorem braced_register (registry next : Registry) (declaration : Declaration)
    (registered : registry.register declaration = .ok next) (before : Braced registry) :
    Braced next := by
  obtain ⟨isRecord, _, rfl⟩ := (register_eq_ok_iff _ _ _).mp registered
  intro kind type stored found
  rw [types_setTypes] at found
  by_cases sameKind : kind = declaration.kind
  · rw [if_pos sameKind, Table.get?_insert] at found
    by_cases sameType : type = declaration.type
    · rw [if_pos sameType] at found
      cases found
      exact storable_braced isRecord
    · rw [if_neg sameType] at found
      exact before _ _ _ found
  · rw [if_neg sameKind] at found
    exact before _ _ _ found

theorem braced_after (calls : List RegistryCall) : Braced (after calls) :=
  holds_after braced_empty braced_register calls

theorem storable_get? {registry : Registry} (invariant : Braced registry) {kind : EntityKind}
    {type : String} {schema : Schema} (found : registry.get? kind type = some schema) :
    Storable schema := by
  obtain ⟨registered, stored, rfl⟩ := Option.map_eq_some_iff.mp found
  exact invariant kind type registered stored

end Registry
end Stanza
