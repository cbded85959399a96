import Stanza.Proofs.Outcome
import Stanza.Proofs.Registry.Runs
import Stanza.Proofs.Table.Filling

set_option autoImplicit false

/-!
What a run of a registry leaves behind. Every stored type goes back to the call that first
stored it, stays at its place, and is refused to all later declarations; a refused call
stores what comes before the refused declaration and nothing else.
-/

namespace Stanza

def RegistryCall.declarations : RegistryCall → List Declaration
  | .declaration single => [single]
  | .document whole => whole.declarations

namespace Registry

/-! ### Tables that grow at their end -/

/-- What is stored in the first registry is stored in the second at the same places. -/
def Grows (before after : Registry) : Prop :=
  ∀ kind, (before.types kind).entries <+: (after.types kind).entries

theorem Grows.refl (registry : Registry) : Grows registry registry :=
  fun _ => List.prefix_rfl

theorem grows_register (base registry next : Registry) (declaration : Declaration)
    (registered : registry.register declaration = .ok next) (before : Grows base registry) :
    Grows base next := by
  obtain ⟨_, isFree, rfl⟩ := (register_eq_ok_iff _ _ _).mp registered
  intro kind
  rw [types_setTypes]
  by_cases sameKind : kind = declaration.kind
  · subst sameKind
    rw [if_pos rfl, Table.entries_insert, putEntry_of_absent isFree]
    exact (before _).trans (List.prefix_append _ _)
  · rw [if_neg sameKind]
    exact before kind

theorem grows_performAll (calls : List RegistryCall) (registry : Registry) :
    Grows registry (calls.foldl perform registry) :=
  performAll_keeps (grows_register registry) calls registry (Grows.refl registry)

theorem after_append (calls more : List RegistryCall) :
    after (calls ++ more) = more.foldl perform (after calls) := List.foldl_append

theorem after_concat (calls : List RegistryCall) (call : RegistryCall) :
    after (calls ++ [call]) = (after calls).perform call := after_append calls [call]

theorem Grows.get? {before after : Registry} (grows : Grows before after) {kind : EntityKind}
    {type : String} {stored : RegisteredType}
    (found : (before.types kind).get? type = some stored) :
    (after.types kind).get? type = some stored := by
  obtain ⟨added, same⟩ := grows kind
  unfold Table.get? at found ⊢
  rw [← same, findValue?_append, found, Option.some_or]

/-! ### Refusals -/

theorem register_eq_error_iff (registry : Registry) (declaration : Declaration)
    (error : RegistryError) :
    registry.register declaration = .error error ↔
      declaration.schema.isRecord = false ∧
          error = .notARecord declaration.kind declaration.type declaration.schema.kind ∨
        declaration.schema.isRecord = true ∧
          ∃ present, (registry.types declaration.kind).get? declaration.type = some present ∧
            error = .duplicateType declaration.kind declaration.type present.provider
              declaration.provider := by
  unfold register
  cases isRecord : declaration.schema.isRecord with
  | false => simp [eq_comm]
  | true =>
      cases (registry.types declaration.kind).get? declaration.type with
      | none => simp
      | some present => simp [eq_comm]

theorem setTypes_comm (registry : Registry) {kind other : EntityKind} (apart : other ≠ kind)
    (own table : Table RegisteredType) :
    (registry.setTypes other table).setTypes kind own =
      (registry.setTypes kind own).setTypes other table := by
  cases kind with
  | resource =>
      cases other with
      | resource => exact absurd rfl apart
      | dataSource => rfl
  | dataSource =>
      cases other with
      | resource => rfl
      | dataSource => exact absurd rfl apart

/-- The other kind plays no part in a registration and is left as it is. -/
theorem register_setTypes (registry : Registry) {declaration : Declaration} {other : EntityKind}
    (table : Table RegisteredType) (apart : other ≠ declaration.kind) :
    (registry.setTypes other table).register declaration =
      (registry.register declaration).map fun next => next.setTypes other table := by
  have own : (registry.setTypes other table).types declaration.kind =
      registry.types declaration.kind := by
    rw [types_setTypes, if_neg (Ne.symm apart)]
  unfold register
  rw [own]
  cases declaration.schema.isRecord with
  | false => rfl
  | true =>
      cases (registry.types declaration.kind).get? declaration.type with
      | some present => rfl
      | none => exact congrArg Except.ok (setTypes_comm registry apart _ table)

/-- Registering stops at a declaration when all before it are stored and it is refused. -/
theorem registerAll_eq_error_iff (registry reached : Registry) (declarations : List Declaration)
    (error : RegistryError) :
    registry.registerAll declarations = (reached, some error) ↔
      ∃ front failing back, declarations = front ++ failing :: back ∧
        front.foldlM register registry = .ok reached ∧
        reached.register failing = .error error := by
  induction declarations generalizing registry with
  | nil => simp [registerAll]
  | cons declaration rest ih =>
      rw [registerAll]
      cases registered : registry.register declaration with
      | error first =>
          constructor
          · intro stopped
            cases stopped
            exact ⟨[], declaration, rest, rfl, rfl, registered⟩
          · rintro ⟨front, failing, back, split, stored, refused⟩
            cases front with
            | nil =>
                cases stored
                cases split
                rw [registered] at refused
                cases refused
                rfl
            | cons head front =>
                cases split
                rw [List.foldlM_cons, registered] at stored
                cases stored
      | ok mid =>
          rw [ih mid]
          constructor
          · rintro ⟨front, failing, back, rfl, stored, refused⟩
            refine ⟨declaration :: front, failing, back, rfl, ?_, refused⟩
            rw [List.foldlM_cons, registered]
            exact stored
          · rintro ⟨front, failing, back, split, stored, refused⟩
            cases front with
            | nil =>
                cases stored
                cases split
                rw [registered] at refused
                cases refused
            | cons head front =>
                cases split
                rw [List.foldlM_cons, registered] at stored
                exact ⟨front, failing, back, rfl, stored, refused⟩

/-! ### Where a stored type comes from -/

/-- A declaration of a type as it is stored: a record, in braces if it was without a marker. -/
structure Declares (declaration : Declaration) (kind : EntityKind) (type : String)
    (stored : RegisteredType) : Prop where
  kind_eq : declaration.kind = kind
  type_eq : declaration.type = type
  isRecord : declaration.schema.isRecord = true
  stored_eq : stored = ⟨declaration.provider, braced declaration.schema⟩

theorem declares_of_register {registry next : Registry} {declaration : Declaration}
    (registered : registry.register declaration = .ok next) {kind : EntityKind} {type : String}
    {stored : RegisteredType} (isFree : (registry.types kind).get? type = none)
    (found : (next.types kind).get? type = some stored) :
    Declares declaration kind type stored := by
  obtain ⟨isRecord, _, rfl⟩ := (register_eq_ok_iff _ _ _).mp registered
  rw [types_setTypes] at found
  by_cases sameKind : kind = declaration.kind
  · rw [if_pos sameKind, Table.get?_insert] at found
    by_cases sameType : type = declaration.type
    · rw [if_pos sameType] at found
      cases found
      exact ⟨sameKind.symm, sameType.symm, isRecord, rfl⟩
    · rw [if_neg sameType, ← sameKind, isFree] at found
      cases found
  · rw [if_neg sameKind, isFree] at found
    cases found

theorem exists_declares_of_registerAll {registry : Registry} {declarations : List Declaration}
    {kind : EntityKind} {type : String} {stored : RegisteredType}
    (isFree : (registry.types kind).get? type = none)
    (found : ((registry.registerAll declarations).1.types kind).get? type = some stored) :
    ∃ declaration ∈ declarations, Declares declaration kind type stored := by
  induction declarations generalizing registry with
  | nil => cases isFree.symm.trans found
  | cons declaration rest ih =>
      rw [registerAll] at found
      cases registered : registry.register declaration with
      | error error =>
          rw [registered] at found
          cases isFree.symm.trans found
      | ok next =>
          rw [registered] at found
          cases present : (next.types kind).get? type with
          | none =>
              obtain ⟨later, member, declares⟩ := ih present found
              exact ⟨later, List.mem_cons_of_mem _ member, declares⟩
          | some first =>
              -- what is stored by this declaration is what is found in the end
              have grows := registerAll_keeps (grows_register next) rest next (Grows.refl next)
              have kept := grows.get? present
              cases kept.symm.trans found
              have declares := declares_of_register registered isFree present
              exact ⟨declaration, List.mem_cons_self, declares⟩

theorem exists_declares_of_perform {registry : Registry} {call : RegistryCall}
    {kind : EntityKind} {type : String} {stored : RegisteredType}
    (isFree : (registry.types kind).get? type = none)
    (found : ((registry.perform call).types kind).get? type = some stored) :
    ∃ declaration ∈ call.declarations, Declares declaration kind type stored := by
  cases call with
  | document document => exact exists_declares_of_registerAll isFree found
  | declaration declaration =>
      rw [perform] at found
      cases registered : registry.register declaration with
      | error error =>
          rw [registered] at found
          cases isFree.symm.trans found
      | ok next =>
          rw [registered] at found
          exact ⟨declaration, List.mem_cons_self, declares_of_register registered isFree found⟩

/-- The declaration by which a type is first stored, in a call before which it was free. -/
def StoredFirst (calls : List RegistryCall) (kind : EntityKind) (type : String)
    (declaration : Declaration) : Prop :=
  ∃ before call later, calls = before ++ call :: later ∧
    ((after before).types kind).get? type = none ∧
    declaration ∈ call.declarations ∧
    declaration.kind = kind ∧ declaration.type = type ∧
    ((after (before ++ [call])).types kind).get? type =
      some ⟨declaration.provider, braced declaration.schema⟩

theorem exists_storedFirst {calls : List RegistryCall} {kind : EntityKind} {type : String}
    {stored : RegisteredType} (found : ((after calls).types kind).get? type = some stored) :
    ∃ declaration, StoredFirst calls kind type declaration ∧
      Declares declaration kind type stored := by
  induction calls using List.reverseRecOn with
  | nil =>
      rw [after, List.foldl_nil, types_empty] at found
      cases found
  | append_singleton calls call ih =>
      -- The type was there before the last call, or it was free and this call stored it.
      cases present : ((after calls).types kind).get? type with
      | some first =>
          have kept := (grows_performAll [call] (after calls)).get? present
          rw [← after_append] at kept
          cases kept.symm.trans found
          obtain ⟨declaration, ⟨before, earlier, later, rfl, storing⟩, declares⟩ := ih present
          refine ⟨declaration, ⟨before, earlier, later ++ [call], ?_, storing⟩, declares⟩
          rw [List.append_assoc, List.cons_append]
      | none =>
          have found' := found
          rw [after_concat] at found'
          obtain ⟨declaration, member, declares⟩ := exists_declares_of_perform present found'
          refine ⟨declaration, ⟨calls, call, [], rfl, present, member, declares.kind_eq,
            declares.type_eq, ?_⟩, declares⟩
          rw [found, declares.stored_eq]

theorem braced_record (label : Label) (fields : List (Field Schema)) :
    braced (.record label fields) =
      .record { label with
        marker := if label.marker = .none then .resource else label.marker } fields := by
  obtain ⟨marker, name⟩ := label
  cases marker <;> rfl

/-! ### Whole runs -/

theorem exists_declaration_of_stored {calls : List RegistryCall} {kind : EntityKind}
    {type : String} {stored : RegisteredType}
    (found : ((after calls).types kind).get? type = some stored) :
    ∃ declaration label fields, StoredFirst calls kind type declaration ∧
      stored.provider = declaration.provider ∧
      declaration.schema = .record label fields ∧
      stored.schema = .record { label with
        marker := if label.marker = .none then .resource else label.marker } fields ∧
      stored.schema.marker.isBraced = true := by
  obtain ⟨declaration, first, declares⟩ := exists_storedFirst found
  have marked := (braced_after calls kind type stored found).2
  have same := declares.stored_eq
  cases schema : declaration.schema with
  | record label fields =>
      rw [schema, braced_record] at same
      subst same
      exact ⟨declaration, label, fields, first, rfl, schema, rfl, marked⟩
  | _ =>
      have isRecord := declares.isRecord
      rw [schema] at isRecord
      cases isRecord

/-- A repetition is refused with the provider of the first declaration. -/
theorem register_after_eq_error_iff (calls : List RegistryCall) (declaration : Declaration)
    (error : RegistryError) :
    (after calls).register declaration = .error error ↔
      declaration.schema.isRecord = false ∧
          error = .notARecord declaration.kind declaration.type declaration.schema.kind ∨
        declaration.schema.isRecord = true ∧
          ∃ first, StoredFirst calls declaration.kind declaration.type first ∧
            error = .duplicateType declaration.kind declaration.type first.provider
              declaration.provider := by
  rw [register_eq_error_iff]
  apply or_congr Iff.rfl
  apply and_congr Iff.rfl
  constructor
  · rintro ⟨present, found, same⟩
    obtain ⟨first, storing, declares⟩ := exists_storedFirst found
    refine ⟨first, storing, ?_⟩
    rw [same, declares.stored_eq]
  · rintro ⟨first, ⟨before, call, later, rfl, _, _, _, _, found⟩, same⟩
    have kept := (grows_performAll later (after (before ++ [call]))).get? found
    rw [← after_append, List.append_assoc] at kept
    exact ⟨_, kept, same⟩

/--
The registry after any calls, successful or not. A stored schema is the record that was
declared when its type was first stored, with a missing marker made a stanza body. No type
is stored twice for a kind, and the other kind plays no part. What is stored stays where it
is. A refused declaration leaves the registry as it was, and is refused as no record before
it is refused as a repetition of the first declaration. A refused document leaves what its
declarations before the refused one give.
-/
theorem run_invariant (calls : List RegistryCall) :
    (∀ kind type stored, ((after calls).types kind).get? type = some stored →
      ∃ declaration label fields, StoredFirst calls kind type declaration ∧
        stored.provider = declaration.provider ∧
        declaration.schema = .record label fields ∧
        stored.schema = .record { label with
          marker := if label.marker = .none then .resource else label.marker } fields ∧
        stored.schema.marker.isBraced = true) ∧
    (∀ kind, ((after calls).types kind).keys.Nodup) ∧
    (∀ declaration other table, other ≠ declaration.kind →
      ((after calls).setTypes other table).register declaration =
        ((after calls).register declaration).map fun next => next.setTypes other table) ∧
    (∀ more kind,
      ((after calls).types kind).entries <+: ((after (calls ++ more)).types kind).entries) ∧
    (∀ declaration error, (after calls).register declaration = .error error →
      after (calls ++ [.declaration declaration]) = after calls) ∧
    (∀ declaration error, (after calls).register declaration = .error error ↔
      declaration.schema.isRecord = false ∧
          error = .notARecord declaration.kind declaration.type declaration.schema.kind ∨
        declaration.schema.isRecord = true ∧
          ∃ first, StoredFirst calls declaration.kind declaration.type first ∧
            error = .duplicateType declaration.kind declaration.type first.provider
              declaration.provider) ∧
    (∀ document reached error,
      (after calls).registerProvider document = (reached, some error) →
        after (calls ++ [.document document]) = reached ∧
        ∃ front failing back, document.declarations = front ++ failing :: back ∧
          front.foldlM register (after calls) = .ok reached ∧
          reached.register failing = .error error) := by
  refine ⟨fun _ _ _ => exists_declaration_of_stored, ?_, ?_, ?_, ?_,
    register_after_eq_error_iff calls, ?_⟩
  · intro kind
    exact ((after calls).types kind).distinct
  · intro declaration other table apart
    exact register_setTypes (after calls) table apart
  · intro more kind
    rw [after_append]
    exact grows_performAll more (after calls) kind
  · intro declaration error refused
    rw [after_concat, perform, refused]
  · intro document reached error stopped
    refine ⟨?_, (registerAll_eq_error_iff _ _ _ _).mp stopped⟩
    rw [after_concat, perform, stopped]

def acmeBox : RegistryCall := .declaration ⟨.resource, "acme", "box", .record ⟨.block, none⟩ []⟩

/-- Declares a type of its own, a type that another provider has, and one more. -/
def betaTypes : ProviderDocument where
  provider := "beta"
  resources := .ofList [("zone", .record {} []), ("box", .record {} [])]
  dataSources := .ofList [("zone", .record {} [])]

/-- The document is refused at its second type, and its first type stays registered. -/
theorem betaTypes_stop_at_box :
    (after [acmeBox]).registerProvider betaTypes =
        (after [acmeBox, .declaration ⟨.resource, "beta", "zone", .record {} []⟩],
          some (.duplicateType .resource "box" "acme" "beta")) ∧
      after [acmeBox, .document betaTypes] =
        after [acmeBox, .declaration ⟨.resource, "beta", "zone", .record {} []⟩] ∧
      ∃ front failing back, betaTypes.declarations = front ++ failing :: back ∧
        front.foldlM register (after [acmeBox]) =
          .ok (after [acmeBox, .declaration ⟨.resource, "beta", "zone", .record {} []⟩]) := by
  have stopped : (after [acmeBox]).registerProvider betaTypes =
      (after [acmeBox, .declaration ⟨.resource, "beta", "zone", .record {} []⟩],
        some (.duplicateType .resource "box" "acme" "beta")) := rfl
  obtain ⟨_, _, _, _, _, _, document⟩ := run_invariant [acmeBox]
  obtain ⟨reached, front, failing, back, split, stored, _⟩ := document _ _ _ stopped
  exact ⟨stopped, reached, front, failing, back, split, stored⟩

end Registry
end Stanza
