import Stanza.Proofs.Registry.History

set_option autoImplicit false

/-!
Provider documents in any order. Whether all of them can be registered is decided by the
documents alone, and so is every lookup in the registry they give; the order of the documents
only decides where the types stand.
-/

namespace Stanza

namespace ProviderDocument

def types (document : ProviderDocument) : EntityKind → Table Schema
  | .resource => document.resources
  | .dataSource => document.dataSources

theorem mem_declarations_iff {document : ProviderDocument} {declaration : Declaration} :
    declaration ∈ document.declarations ↔
      declaration.provider = document.provider ∧
        (document.types declaration.kind).get? declaration.type = some declaration.schema := by
  obtain ⟨kind, provider, type, schema⟩ := declaration
  rw [Table.get?_eq_some_iff]
  cases kind <;> simp [declarations, types, eq_comm, and_comm]

end ProviderDocument

/-- Two declarations that do not ask for the same place. -/
def Declaration.Apart (left right : Declaration) : Prop :=
  ¬ (left.kind = right.kind ∧ left.type = right.type)

theorem ProviderDocument.pairwise_declarations (document : ProviderDocument) :
    document.declarations.Pairwise Declaration.Apart := by
  have ofKind (kind : EntityKind) (table : Table Schema) :
      (table.entries.map fun entry =>
        (⟨kind, document.provider, entry.1, entry.2⟩ : Declaration)).Pairwise
          Declaration.Apart := by
    rw [List.pairwise_map]
    refine (List.pairwise_map.mp table.distinct).imp ?_
    intro left right different same
    exact different same.2
  rw [declarations, List.pairwise_append]
  refine ⟨ofKind .resource document.resources, ofKind .dataSource document.dataSources, ?_⟩
  intro left isResource right isDataSource same
  obtain ⟨_, _, rfl⟩ := List.mem_map.mp isResource
  obtain ⟨_, _, rfl⟩ := List.mem_map.mp isDataSource
  cases same.1

namespace Registry

/-! ### Documents as one list of declarations -/

theorem registerAll_eq_stored_iff (registry next : Registry) (declarations : List Declaration) :
    registry.registerAll declarations = (next, none) ↔
      declarations.foldlM register registry = .ok next := by
  induction declarations generalizing registry with
  | nil => simp [registerAll, pure, Except.pure]
  | cons declaration rest ih =>
      rw [registerAll, List.foldlM_cons]
      cases registry.register declaration with
      | error error => simp [bind, Except.bind]
      | ok mid => exact ih mid

theorem registerProviders_eq_ok_iff (registry next : Registry)
    (documents : List ProviderDocument) :
    registry.registerProviders documents = .ok next ↔
      (documents.flatMap ProviderDocument.declarations).foldlM register registry = .ok next := by
  induction documents generalizing registry with
  | nil => simp [registerProviders, pure, Except.pure]
  | cons document rest ih =>
      rw [registerProviders, List.flatMap_cons, List.foldlM_append, bind_eq_ok_iff]
      cases registered : registry.registerProvider document with
      | mk reached refusal =>
          cases refusal with
          | none =>
              have stored := (registerAll_eq_stored_iff _ _ _).mp registered
              simp only [stored, Except.ok.injEq, exists_eq_left', ih]
          | some error =>
              constructor
              · intro same
                cases same
              · intro same
                obtain ⟨mid, stored, _⟩ := same
                have whole := (registerAll_eq_stored_iff _ _ _).mpr stored
                cases whole.symm.trans registered

/-! ### What a successful run has stored -/

theorem get?_of_register {registry next : Registry} {declaration : Declaration}
    (registered : registry.register declaration = .ok next) (kind : EntityKind) (type : String)
    (stored : RegisteredType) :
    (next.types kind).get? type = some stored ↔
      (registry.types kind).get? type = some stored ∨ Declares declaration kind type stored := by
  obtain ⟨isRecord, isFree, rfl⟩ := (register_eq_ok_iff _ _ _).mp registered
  rw [types_setTypes]
  by_cases own : kind = declaration.kind ∧ type = declaration.type
  · obtain ⟨rfl, rfl⟩ := own
    rw [if_pos rfl, Table.get?_insert, if_pos rfl, isFree]
    constructor
    · intro same
      exact .inr ⟨rfl, rfl, isRecord, (Option.some.inj same).symm⟩
    · intro either
      rcases either with impossible | declares
      · cases impossible
      · rw [declares.stored_eq]
  · have kept : (if kind = declaration.kind then
        (registry.types declaration.kind).insert declaration.type
          ⟨declaration.provider, braced declaration.schema⟩
        else registry.types kind).get? type = (registry.types kind).get? type := by
      by_cases sameKind : kind = declaration.kind
      · subst sameKind
        rw [if_pos rfl, Table.get?_insert, if_neg fun sameType => own ⟨rfl, sameType⟩]
      · rw [if_neg sameKind]
    rw [kept]
    constructor
    · intro found
      exact .inl found
    · intro either
      rcases either with found | declares
      · exact found
      · exact absurd ⟨declares.kind_eq.symm, declares.type_eq.symm⟩ own

theorem get?_eq_none_of_register {registry next : Registry} {declaration : Declaration}
    (registered : registry.register declaration = .ok next) (kind : EntityKind)
    (type : String) :
    (next.types kind).get? type = none ↔
      (registry.types kind).get? type = none ∧
        ¬ (declaration.kind = kind ∧ declaration.type = type) := by
  obtain ⟨isRecord, _, _⟩ := (register_eq_ok_iff _ _ _).mp registered
  simp only [Option.eq_none_iff_forall_ne_some, ne_eq, get?_of_register registered, not_or]
  constructor
  · intro free
    refine ⟨fun stored => (free stored).1, ?_⟩
    intro own
    exact (free ⟨declaration.provider, braced declaration.schema⟩).2
      ⟨own.1, own.2, isRecord, rfl⟩
  · intro free stored
    exact ⟨free.1 stored, fun declares => free.2 ⟨declares.kind_eq, declares.type_eq⟩⟩

theorem size_of_register {registry next : Registry} {declaration : Declaration}
    (registered : registry.register declaration = .ok next) : next.size = registry.size + 1 := by
  obtain ⟨_, isFree, rfl⟩ := (register_eq_ok_iff _ _ _).mp registered
  obtain ⟨kind, provider, type, schema⟩ := declaration
  cases kind <;>
    simp only [size, setTypes, types, Table.size, Table.entries_insert] at isFree ⊢ <;>
    rw [putEntry_of_absent isFree, List.length_append, List.length_singleton] <;>
    omega

theorem get?_of_registered {declarations : List Declaration} {registry next : Registry}
    (registered : declarations.foldlM register registry = .ok next) (kind : EntityKind)
    (type : String) (stored : RegisteredType) :
    (next.types kind).get? type = some stored ↔
      (registry.types kind).get? type = some stored ∨
        ∃ declaration ∈ declarations, Declares declaration kind type stored := by
  induction declarations generalizing registry with
  | nil =>
      cases registered
      simp
  | cons declaration rest ih =>
      rw [List.foldlM_cons] at registered
      obtain ⟨mid, first, others⟩ := bind_eq_ok_iff.mp registered
      rw [ih others, get?_of_register first, or_assoc, List.exists_mem_cons_iff]

theorem size_of_registered {declarations : List Declaration} {registry next : Registry}
    (registered : declarations.foldlM register registry = .ok next) :
    next.size = registry.size + declarations.length := by
  induction declarations generalizing registry with
  | nil =>
      cases registered
      rfl
  | cons declaration rest ih =>
      rw [List.foldlM_cons] at registered
      obtain ⟨mid, first, others⟩ := bind_eq_ok_iff.mp registered
      rw [ih others, size_of_register first, List.length_cons]
      omega

/-! ### When a run succeeds -/

theorem succeeds_foldlM_register_iff (declarations : List Declaration) (registry : Registry) :
    Succeeds (declarations.foldlM register registry) ↔
      (∀ declaration ∈ declarations, declaration.schema.isRecord = true ∧
        (registry.types declaration.kind).get? declaration.type = none) ∧
        declarations.Pairwise Declaration.Apart := by
  induction declarations generalizing registry with
  | nil => simp [pure, Except.pure]
  | cons declaration rest ih =>
      rw [List.foldlM_cons, succeeds_bind_iff, List.forall_mem_cons, List.pairwise_cons]
      constructor
      · intro succeeded
        obtain ⟨mid, first, others⟩ := succeeded
        obtain ⟨isRecord, isFree, _⟩ := (register_eq_ok_iff _ _ _).mp first
        obtain ⟨free, apart⟩ := (ih mid).mp others
        refine ⟨⟨⟨isRecord, isFree⟩, fun later member => ?_⟩, fun later member => ?_, apart⟩
        · obtain ⟨laterRecord, laterFree⟩ := free later member
          exact ⟨laterRecord, ((get?_eq_none_of_register first _ _).mp laterFree).1⟩
        · exact ((get?_eq_none_of_register first _ _).mp (free later member).2).2
      · intro possible
        obtain ⟨⟨⟨isRecord, isFree⟩, free⟩, own, apart⟩ := possible
        have first := (register_eq_ok_iff registry _ declaration).mpr ⟨isRecord, isFree, rfl⟩
        refine ⟨_, first, (ih _).mpr ⟨fun later member => ?_, apart⟩⟩
        obtain ⟨laterRecord, laterFree⟩ := free later member
        exact ⟨laterRecord, (get?_eq_none_of_register first _ _).mpr
          ⟨laterFree, own later member⟩⟩

/-- Every declared schema is a record, and no type is declared by two of the documents. -/
structure Compatible (documents : List ProviderDocument) : Prop where
  records : ∀ document ∈ documents, ∀ kind type schema,
    (document.types kind).get? type = some schema → schema.isRecord = true
  apart : documents.Pairwise fun left right => ∀ kind type,
    ¬ (type ∈ (left.types kind).keys ∧ type ∈ (right.types kind).keys)

theorem Compatible.perm {documents permuted : List ProviderDocument}
    (compatible : Compatible documents) (perm : documents.Perm permuted) :
    Compatible permuted := by
  refine ⟨fun document member => compatible.records document (perm.mem_iff.mpr member), ?_⟩
  refine (perm.pairwise_iff ?_).mp compatible.apart
  intro left right apart kind type both
  exact apart kind type ⟨both.2, both.1⟩

theorem declarations_apart_iff (left right : ProviderDocument) :
    (∀ first ∈ left.declarations, ∀ second ∈ right.declarations, first.Apart second) ↔
      ∀ kind type, ¬ (type ∈ (left.types kind).keys ∧ type ∈ (right.types kind).keys) := by
  constructor
  · intro apart kind type both
    obtain ⟨leftSchema, inLeft⟩ := Table.exists_get?_of_mem_keys both.1
    obtain ⟨rightSchema, inRight⟩ := Table.exists_get?_of_mem_keys both.2
    exact apart ⟨kind, left.provider, type, leftSchema⟩
      (ProviderDocument.mem_declarations_iff.mpr ⟨rfl, inLeft⟩)
      ⟨kind, right.provider, type, rightSchema⟩
      (ProviderDocument.mem_declarations_iff.mpr ⟨rfl, inRight⟩) ⟨rfl, rfl⟩
  · intro apart first inLeft second inRight same
    have foundLeft := (ProviderDocument.mem_declarations_iff.mp inLeft).2
    have foundRight := (ProviderDocument.mem_declarations_iff.mp inRight).2
    rw [← same.1, ← same.2] at foundRight
    exact apart first.kind first.type
      ⟨List.mem_map_of_mem (Table.get?_eq_some_iff.mp foundLeft),
        List.mem_map_of_mem (Table.get?_eq_some_iff.mp foundRight)⟩

theorem succeeds_registerProviders_iff (documents : List ProviderDocument) :
    Succeeds (empty.registerProviders documents) ↔ Compatible documents := by
  have asOneList : Succeeds (empty.registerProviders documents) ↔
      Succeeds ((documents.flatMap ProviderDocument.declarations).foldlM register empty) :=
    exists_congr fun next => registerProviders_eq_ok_iff empty next documents
  rw [asOneList, succeeds_foldlM_register_iff, List.pairwise_flatMap]
  simp only [types_empty, Table.get?_empty, and_true, List.mem_flatMap, forall_exists_index,
    and_imp, declarations_apart_iff]
  constructor
  · intro possible
    refine ⟨fun document member kind type schema declared => ?_, possible.2.2⟩
    exact possible.1 ⟨kind, document.provider, type, schema⟩ document member
      (ProviderDocument.mem_declarations_iff.mpr ⟨rfl, declared⟩)
  · intro compatible
    refine ⟨fun declaration document member declared => ?_,
      fun document _ => document.pairwise_declarations, compatible.apart⟩
    exact compatible.records document member _ _ _
      (ProviderDocument.mem_declarations_iff.mp declared).2

/-! ### Any order of the documents -/

theorem types_eq_of_perm {documents permuted : List ProviderDocument}
    (perm : documents.Perm permuted) {left right : Registry}
    (isLeft : empty.registerProviders documents = .ok left)
    (isRight : empty.registerProviders permuted = .ok right) (kind : EntityKind)
    (type : String) : (left.types kind).get? type = (right.types kind).get? type := by
  have sameDeclarations := perm.flatMap_right ProviderDocument.declarations
  apply Option.ext
  intro stored
  rw [get?_of_registered ((registerProviders_eq_ok_iff _ _ _).mp isLeft),
    get?_of_registered ((registerProviders_eq_ok_iff _ _ _).mp isRight)]
  simp only [sameDeclarations.mem_iff]

/--
The order of the documents decides neither whether all of them are registered nor what is
found afterwards. They are registered exactly when every declared schema is a record and no
two of them declare the same type of a kind.
-/
theorem registerProviders_perm {documents permuted : List ProviderDocument}
    (perm : documents.Perm permuted) :
    (Succeeds (empty.registerProviders documents) ↔
      Succeeds (empty.registerProviders permuted)) ∧
    (∀ left right, empty.registerProviders documents = .ok left →
      empty.registerProviders permuted = .ok right →
        (∀ kind type, left.get? kind type = right.get? kind type ∧
          left.contains kind type = right.contains kind type ∧
          left.providerOf? kind type = right.providerOf? kind type) ∧
        left.size = right.size) ∧
    (Succeeds (empty.registerProviders documents) ↔ Compatible documents) := by
  refine ⟨?_, ?_, succeeds_registerProviders_iff documents⟩
  · rw [succeeds_registerProviders_iff, succeeds_registerProviders_iff]
    exact ⟨fun compatible => compatible.perm perm, fun compatible => compatible.perm perm.symm⟩
  · intro left right isLeft isRight
    constructor
    · intro kind type
      simp only [get?, contains, Table.contains, providerOf?,
        types_eq_of_perm perm isLeft isRight kind type, and_self]
    · have leftSize := size_of_registered ((registerProviders_eq_ok_iff _ _ _).mp isLeft)
      have rightSize := size_of_registered ((registerProviders_eq_ok_iff _ _ _).mp isRight)
      have sameLength := (perm.flatMap_right ProviderDocument.declarations).length_eq
      omega

def acmeTypes : ProviderDocument where
  provider := "acme"
  resources := .ofList [("disk", .record ⟨.block, none⟩ [])]
  dataSources := .ofList [("box", .record {} [])]

/-- The providers come up in the order of their documents and the types are found in both. A
data source `box` is no second resource `box`. -/
theorem acme_beta_in_any_order :
    [acmeTypes, betaTypes].Perm [betaTypes, acmeTypes] ∧ Compatible [acmeTypes, betaTypes] ∧
      ∃ left right, empty.registerProviders [acmeTypes, betaTypes] = .ok left ∧
        empty.registerProviders [betaTypes, acmeTypes] = .ok right ∧
        left.providers = ["acme", "beta"] ∧ right.providers = ["beta", "acme"] ∧
        left.get? .resource "box" = right.get? .resource "box" ∧
        left.providerOf? .dataSource "box" = right.providerOf? .dataSource "box" ∧
        left.size = right.size := by
  have swapped : [acmeTypes, betaTypes].Perm [betaTypes, acmeTypes] := .swap _ _ _
  obtain ⟨_, same, possible⟩ := registerProviders_perm swapped
  obtain ⟨lookups, sizes⟩ := same _ _ rfl rfl
  exact ⟨swapped, possible.mp ⟨_, rfl⟩, _, _, rfl, rfl, by decide +kernel, by decide +kernel,
    (lookups .resource "box").1, (lookups .dataSource "box").2.2, sizes⟩

end Registry
end Stanza
