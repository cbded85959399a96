import Mathlib.Data.List.Pairwise
import Stanza.Proofs.Registry.Reordering

set_option autoImplicit false

/-!
The order in which a registry lists its providers. A run stores some of the declarations it
is called with; the tables hold them by kind, each in the order of the run. The providers of
resources are listed before all others, so that the list is in order of the run exactly when
no provider is overtaken by a resource.
-/

namespace Stanza

/-! ### First occurrences -/

/-- Some front of a list has the first item and not the second. -/
def Sooner {α : Type} (items : List α) (first second : α) : Prop :=
  ∃ front back, items = front ++ back ∧ first ∈ front ∧ second ∉ front

section Sooner

variable {α : Type} {items : List α} {first second : α}

theorem Sooner.mem (sooner : Sooner items first second) : first ∈ items := by
  obtain ⟨front, back, rfl, inside, _⟩ := sooner
  exact List.mem_append_left back inside

theorem Sooner.append (sooner : Sooner items first second) (more : List α) :
    Sooner (items ++ more) first second := by
  obtain ⟨front, back, rfl, inside, outside⟩ := sooner
  exact ⟨front, back ++ more, List.append_assoc front back more, inside, outside⟩

theorem Sooner.asymm (sooner : Sooner items first second) : ¬ Sooner items second first := by
  intro opposite
  obtain ⟨front, back, split, inside, outside⟩ := sooner
  obtain ⟨other, rest, otherSplit, otherInside, otherOutside⟩ := opposite
  -- Of two fronts of one list one is a front of the other.
  rcases List.prefix_or_prefix_of_prefix ⟨back, split.symm⟩ ⟨rest, otherSplit.symm⟩ with
    shorter | shorter
  · exact otherOutside (shorter.subset inside)
  · exact outside (shorter.subset otherInside)

theorem sooner_total (inside : first ∈ items) (different : first ≠ second) :
    Sooner items first second ∨ Sooner items second first := by
  obtain ⟨front, back, split, isNew⟩ := List.eq_append_cons_of_mem inside
  by_cases before : second ∈ front
  · exact .inr ⟨front, first :: back, split, before, isNew⟩
  · refine .inl ⟨front ++ [first], back, ?_, by simp, ?_⟩
    · rw [split, List.append_assoc, List.singleton_append]
    · simp [before, different.symm]

theorem sooner_append_iff (front back : List α) :
    Sooner (front ++ back) first second ↔
      Sooner front first second ∨
        second ∉ front ∧ (first ∈ front ∨ Sooner back first second) := by
  constructor
  · intro sooner
    obtain ⟨start, rest, split, inside, outside⟩ := sooner
    rcases List.append_eq_append_iff.mp split with ⟨middle, rfl, _⟩ | ⟨middle, rfl, _⟩
    · have notFront : second ∉ front := fun member => outside (List.mem_append_left _ member)
      have notMiddle : second ∉ middle := fun member => outside (List.mem_append_right _ member)
      rcases List.mem_append.mp inside with early | late
      · exact .inr ⟨notFront, .inl early⟩
      · exact .inr ⟨notFront, .inr ⟨middle, rest, by assumption, late, notMiddle⟩⟩
    · exact .inl ⟨start, middle, rfl, inside, outside⟩
  · intro either
    rcases either with sooner | ⟨notFront, early | ⟨start, rest, rfl, inside, outside⟩⟩
    · exact sooner.append back
    · exact ⟨front, back, rfl, early, notFront⟩
    · refine ⟨front ++ start, rest, (List.append_assoc front start rest).symm,
        List.mem_append_right front inside, ?_⟩
      simp [notFront, outside]

theorem pairwise_eraseDups [DecidableEq α] (items : List α) :
    items.eraseDups.Pairwise (Sooner items) := by
  induction items using List.reverseRecOn with
  | nil => simp
  | append_singleton items item ih =>
      have kept : items.eraseDups.Pairwise (Sooner (items ++ [item])) :=
        ih.imp fun sooner => sooner.append [item]
      rw [eraseDups_concat]
      by_cases present : item ∈ items
      · rwa [if_pos present]
      · rw [if_neg present, List.pairwise_append]
        refine ⟨kept, List.pairwise_singleton _ _, ?_⟩
        intro other inside last isLast
        cases List.mem_singleton.mp isLast
        exact ⟨items, [item], rfl, List.mem_eraseDups.mp inside, present⟩

/-- A list without repetition in the order of first occurrence holds the first occurrences. -/
theorem eq_eraseDups_iff [DecidableEq α] {listed : List α} (distinct : listed.Nodup)
    (same : ∀ item, item ∈ listed ↔ item ∈ items) :
    listed = items.eraseDups ↔ listed.Pairwise (Sooner items) := by
  constructor
  · rintro rfl
    exact pairwise_eraseDups items
  · intro inOrder
    have perm : listed.Perm items.eraseDups := by
      rw [List.perm_ext_iff_of_nodup distinct (nodup_eraseDups items)]
      intro item
      rw [same, List.mem_eraseDups]
    refine perm.eq_of_pairwise ?_ inOrder (pairwise_eraseDups items)
    intro left right _ _ one other
    exact absurd other one.asymm

/-- Of two items of an ordered list one comes before the other. -/
theorem related_of_pairwise {related : α → α → Prop} {listed : List α}
    (inOrder : listed.Pairwise related) (inside : first ∈ listed) (alsoInside : second ∈ listed)
    (different : first ≠ second) : related first second ∨ related second first := by
  have either : listed.Pairwise fun left right => related left right ∨ related right left :=
    inOrder.imp fun here => .inl here
  have symmetric : Std.Symm fun left right => related left right ∨ related right left :=
    ⟨fun _ _ => Or.symm⟩
  exact either.forall inside alsoInside different

end Sooner

namespace Registry

/-! ### What a run stores -/

/-- The declarations up to the first that is refused. -/
def accepted (registry : Registry) : List Declaration → List Declaration
  | [] => []
  | declaration :: rest =>
      match registry.register declaration with
      | .ok next => declaration :: next.accepted rest
      | .error _ => []

def acceptedIn (registry : Registry) : List RegistryCall → List Declaration
  | [] => []
  | call :: rest =>
      registry.accepted call.declarations ++ (registry.perform call).acceptedIn rest

/-- The declarations that some calls on an empty registry store, in order. -/
def stored (calls : List RegistryCall) : List Declaration := empty.acceptedIn calls

theorem foldlM_accepted (registry : Registry) (declarations : List Declaration) :
    (registry.accepted declarations).foldlM register registry =
      .ok (registry.registerAll declarations).1 := by
  induction declarations generalizing registry with
  | nil => rfl
  | cons declaration rest ih =>
      rw [accepted, registerAll]
      cases registered : registry.register declaration with
      | error error => rfl
      | ok next =>
          simp only [List.foldlM_cons, registered]
          exact ih next

theorem perform_eq (registry : Registry) (call : RegistryCall) :
    registry.perform call = (registry.registerAll call.declarations).1 := by
  cases call with
  | document document => rfl
  | declaration declaration =>
      simp only [perform, RegistryCall.declarations, registerAll]
      cases registry.register declaration <;> rfl

theorem foldlM_acceptedIn (registry : Registry) (calls : List RegistryCall) :
    (registry.acceptedIn calls).foldlM register registry =
      .ok (calls.foldl perform registry) := by
  induction calls generalizing registry with
  | nil => rfl
  | cons call rest ih =>
      rw [acceptedIn, List.foldlM_append, foldlM_accepted, ← perform_eq]
      exact ih (registry.perform call)

/-- The entry that a declaration makes in the table of its kind. -/
def storedEntry (declaration : Declaration) : String × RegisteredType :=
  (declaration.type, ⟨declaration.provider, braced declaration.schema⟩)

/-- The declarations of a kind, in the same order. -/
def ofKind (kind : EntityKind) (declarations : List Declaration) : List Declaration :=
  declarations.filter fun declaration => declaration.kind = kind

theorem entries_of_registered {declarations : List Declaration} {registry next : Registry}
    (registered : declarations.foldlM register registry = .ok next) (kind : EntityKind) :
    (next.types kind).entries =
      (registry.types kind).entries ++ (ofKind kind declarations).map storedEntry := by
  induction declarations generalizing registry with
  | nil =>
      cases registered
      simp [ofKind]
  | cons declaration rest ih =>
      rw [List.foldlM_cons] at registered
      obtain ⟨mid, first, others⟩ := bind_eq_ok_iff.mp registered
      obtain ⟨_, isFree, rfl⟩ := (register_eq_ok_iff _ _ _).mp first
      rw [ih others, types_setTypes]
      by_cases own : kind = declaration.kind
      · subst own
        rw [if_pos rfl, Table.entries_insert, putEntry_of_absent isFree]
        simp [ofKind, storedEntry]
      · have other : ¬ declaration.kind = kind := fun same => own same.symm
        rw [if_neg own]
        simp [ofKind, other]

theorem entries_after (calls : List RegistryCall) (kind : EntityKind) :
    ((after calls).types kind).entries = (ofKind kind (stored calls)).map storedEntry := by
  have entries := entries_of_registered (foldlM_acceptedIn empty calls) kind
  rw [types_empty] at entries
  exact entries

/-! ### Providers -/

/-- The providers of some declarations, each as often as it declares. -/
def providersOf (declarations : List Declaration) : List String :=
  declarations.map Declaration.provider

theorem providersOf_append (front back : List Declaration) :
    providersOf (front ++ back) = providersOf front ++ providersOf back := List.map_append

theorem values_after (calls : List RegistryCall) (kind : EntityKind) :
    ((after calls).types kind).values.map RegisteredType.provider =
      providersOf (ofKind kind (stored calls)) := by
  rw [Table.values, entries_after, List.map_map, List.map_map]
  rfl

theorem addNew_eq_eraseDups (names : List String) : addNew [] names = names.eraseDups := by
  induction names using List.reverseRecOn with
  | nil => rfl
  | append_singleton names name ih =>
      have step : addNew [] (names ++ [name]) =
          if name ∈ addNew [] names then addNew [] names else addNew [] names ++ [name] := by
        rw [addNew, List.foldl_append]
        rfl
      rw [step, ih, eraseDups_concat]
      simp only [List.mem_eraseDups]

theorem providers_after (calls : List RegistryCall) :
    (after calls).providers = (providersOf (ofKind .resource (stored calls)) ++
      providersOf (ofKind .dataSource (stored calls))).eraseDups := by
  rw [← values_after, ← values_after, ← List.map_append, ← addNew_eq_eraseDups]
  rfl

theorem mem_providersOf_kinds {declarations : List Declaration} {provider : String} :
    provider ∈ providersOf (ofKind .resource declarations) ++
        providersOf (ofKind .dataSource declarations) ↔
      provider ∈ providersOf declarations := by
  have either (declaration : Declaration) :
      declaration.kind = .resource ∨ declaration.kind = .dataSource := by
    cases declaration.kind <;> simp
  simp only [providersOf, ofKind, List.mem_append, List.mem_map, List.mem_filter,
    decide_eq_true_eq, ← exists_or, ← or_and_right, ← and_or_left, either, and_true]

theorem mem_providers_iff (calls : List RegistryCall) (provider : String) :
    provider ∈ (after calls).providers ↔
      ∃ kind type, (after calls).providerOf? kind type = some provider := by
  have ofKind_iff (kind : EntityKind) :
      provider ∈ ((after calls).types kind).values.map RegisteredType.provider ↔
        ∃ type, (after calls).providerOf? kind type = some provider := by
    simp only [providerOf?, Option.map_eq_some_iff, Table.get?_eq_some_iff, Table.values,
      List.mem_map]
    constructor
    · rintro ⟨_, ⟨entry, member, rfl⟩, same⟩
      exact ⟨entry.1, entry.2, member, same⟩
    · rintro ⟨type, registered, member, same⟩
      exact ⟨registered, ⟨_, member, rfl⟩, same⟩
  rw [providers_after, List.mem_eraseDups, List.mem_append, ← values_after, ← values_after,
    ofKind_iff, ofKind_iff]
  constructor
  · intro either
    rcases either with isResource | isDataSource
    · exact ⟨.resource, isResource⟩
    · exact ⟨.dataSource, isDataSource⟩
  · rintro ⟨kind, found⟩
    cases kind with
    | resource => exact .inl found
    | dataSource => exact .inr found

/-- A provider stands before another one that had a type stored before it. -/
structure Overtakes (declarations : List Declaration) (late early : String) : Prop where
  storedLater : Sooner (providersOf declarations) early late
  resourceSooner : Sooner (providersOf (ofKind .resource declarations)) late early

/-- Providers without resources keep their order among all declarations. -/
theorem sooner_of_dataSources {declarations : List Declaration} {first second : String}
    (noResource : second ∉ providersOf (ofKind .resource declarations))
    (sooner : Sooner (providersOf (ofKind .dataSource declarations)) first second) :
    Sooner (providersOf declarations) first second := by
  obtain ⟨front, back, split, inside, outside⟩ := sooner
  obtain ⟨kept, left, whole, frontIs, _⟩ := List.map_eq_append_iff.mp split
  obtain ⟨before, later, rfl, rfl, _⟩ := List.filter_eq_append_iff.mp whole
  refine ⟨providersOf before, providersOf later, providersOf_append before later, ?_, ?_⟩
  · apply mem_providersOf_kinds.mp
    rw [← frontIs] at inside
    exact List.mem_append_right _ inside
  · intro member
    rcases List.mem_append.mp (mem_providersOf_kinds.mpr member) with isResource | isDataSource
    · apply noResource
      rw [ofKind, List.filter_append, providersOf_append]
      exact List.mem_append_left _ isResource
    · rw [← frontIs] at outside
      exact outside isDataSource

/--
The providers of the stored types are listed once each, in order of their first resource and
then, those without one, of their first data source. This is the order in which they first had
a type stored exactly when none overtakes another by a resource.
-/
theorem providers_in_order_iff (calls : List RegistryCall) :
    (after calls).providers.Nodup ∧
    (∀ provider, provider ∈ (after calls).providers ↔
      ∃ kind type, (after calls).providerOf? kind type = some provider) ∧
    (after calls).providers = (providersOf (ofKind .resource (stored calls)) ++
      providersOf (ofKind .dataSource (stored calls))).eraseDups ∧
    ((after calls).providers = (providersOf (stored calls)).eraseDups ↔
      ∀ late early, ¬ Overtakes (stored calls) late early) := by
  have listed := providers_after calls
  have distinct : (after calls).providers.Nodup := listed ▸ nodup_eraseDups _
  have members (provider : String) :
      provider ∈ (after calls).providers ↔ provider ∈ providersOf (stored calls) := by
    rw [listed, List.mem_eraseDups, mem_providersOf_kinds]
  have byKind := listed ▸ pairwise_eraseDups (providersOf (ofKind .resource (stored calls)) ++
    providersOf (ofKind .dataSource (stored calls)))
  refine ⟨distinct, mem_providers_iff calls, listed, ?_⟩
  rw [eq_eraseDups_iff distinct members]
  constructor
  · intro inOrder late early overtakes
    have sooner := overtakes.resourceSooner.append
      (providersOf (ofKind .dataSource (stored calls)))
    have lateListed : late ∈ (after calls).providers := by
      rw [listed, List.mem_eraseDups]
      exact sooner.mem
    have earlyListed := (members early).mpr overtakes.storedLater.mem
    have different : late ≠ early := by
      rintro rfl
      exact sooner.asymm sooner
    rcases related_of_pairwise (byKind.and inOrder) lateListed earlyListed different with
      both | both
    · exact overtakes.storedLater.asymm both.2
    · exact sooner.asymm both.1
  · intro noOvertaking
    refine byKind.imp_of_mem ?_
    intro first second firstListed _ sooner
    have different : first ≠ second := by
      rintro rfl
      exact sooner.asymm sooner
    rcases sooner_total ((members first).mp firstListed) different with inOrder | opposite
    · exact inOrder
    · rcases (sooner_append_iff _ _).mp sooner with resource | ⟨noResource, early | dataSource⟩
      · exact absurd ⟨opposite, resource⟩ (noOvertaking first second)
      · exact absurd ⟨opposite, _, [], (List.append_nil _).symm, early, noResource⟩
          (noOvertaking first second)
      · exact sooner_of_dataSources noResource dataSource

def zoneThenWidget : List RegistryCall := [
  .declaration ⟨.dataSource, "alpha", "zone", .record {} []⟩,
  .declaration ⟨.resource, "beta", "widget", .record {} []⟩]

/-- The provider of the data source is stored first and listed last. -/
theorem resource_overtakes_dataSource :
    providersOf (stored zoneThenWidget) = ["alpha", "beta"] ∧
      (after zoneThenWidget).providers = ["beta", "alpha"] ∧
      (after zoneThenWidget).providers ≠ (providersOf (stored zoneThenWidget)).eraseDups := by
  decide +kernel

end Registry
end Stanza
