import Stanza.Command.Run
import Stanza.Proofs.Project.Texts
import Stanza.Proofs.Registry.Providers

set_option autoImplicit false

/-!
The listing of a registry. Each registered type stands under the provider that registered it
and nowhere else, so that nothing is lost and nothing comes twice; the listing of one provider
is its part of the whole.
-/

namespace Stanza

/-! ### Items under their keys -/

theorem filter_flatMap_filter {α κ : Type} [DecidableEq κ] (key : α → κ) {keys : List κ}
    {other : κ} (absent : other ∉ keys) (items : List α) :
    (keys.flatMap fun own => (items.filter fun item => key item ≠ other).filter fun item =>
      key item = own) = keys.flatMap fun own => items.filter fun item => key item = own := by
  refine List.flatMap_congr fun own member => ?_
  rw [List.filter_filter]
  apply List.filter_congr
  intro item _
  by_cases here : key item = own
  · have apart : own ≠ other := fun same => absent (same ▸ member)
    simp [here, apart]
  · simp [here]

/-- Items taken key by key are all items, once each. -/
theorem flatMap_filter_perm {α κ : Type} [DecidableEq κ] (key : α → κ) {keys : List κ}
    {items : List α} (distinct : keys.Nodup) (covered : ∀ item ∈ items, key item ∈ keys) :
    (keys.flatMap fun own => items.filter fun item => key item = own).Perm items := by
  induction keys generalizing items with
  | nil =>
      have none : items = [] := List.eq_nil_iff_forall_not_mem.mpr fun item member =>
        List.not_mem_nil (covered item member)
      rw [none]
      exact .refl _
  | cons own rest ih =>
      obtain ⟨absent, others⟩ := List.nodup_cons.mp distinct
      have below : ∀ item ∈ items.filter (fun item => key item ≠ own), key item ∈ rest := by
        intro item member
        obtain ⟨inside, apart⟩ := List.mem_filter.mp member
        exact (List.mem_cons.mp (covered item inside)).resolve_left (of_decide_eq_true apart)
      have later := ih others below
      rw [filter_flatMap_filter key absent] at later
      rw [List.flatMap_cons]
      refine (later.append_left _).trans ?_
      simpa only [ne_eq, decide_not] using
        List.filter_append_perm (fun item => decide (key item = own)) items

/-- Putting values under new keys makes a member of each. -/
theorem foldl_putEntry_of_nodup {α : Type} (value : String → α) {names : List String}
    (distinct : names.Nodup) :
    names.foldl (fun members name => putEntry name (value name) members) [] =
      names.map fun name => (name, value name) := by
  induction names using List.reverseRecOn with
  | nil => rfl
  | append_singleton names name ih =>
      obtain ⟨front, _, apart⟩ := List.nodup_append.mp distinct
      have isNew : findValue? name (names.map fun name => (name, value name)) = none := by
        rw [findValue?_eq_none_iff, List.map_map]
        intro member
        obtain ⟨other, inside, same⟩ := List.mem_map.mp member
        exact apart other inside name (by simp) same
      rw [List.foldl_append, ih front, List.map_append]
      exact putEntry_of_absent isNew _

namespace Registry

/-! ### The types of each provider -/

theorem typesOf_after (calls : List RegistryCall) (kind : EntityKind) (provider : String) :
    (after calls).typesOf kind provider =
      ((ofKind kind (stored calls)).filter fun declaration =>
        declaration.provider = provider).map Declaration.type := by
  rw [typesOf, entries_after, List.filter_map, List.map_map]
  rfl

theorem covered_after (calls : List RegistryCall) (kind : EntityKind) :
    ∀ entry ∈ ((after calls).types kind).entries,
      entry.2.provider ∈ (after calls).providers := by
  intro entry member
  rw [mem_providers_iff]
  refine ⟨kind, entry.1, ?_⟩
  rw [providerOf?, Table.get?_eq_some_iff.mpr member]
  rfl

/-- Under their providers the types of a kind are the registered ones. -/
theorem typesOf_perm (calls : List RegistryCall) (kind : EntityKind) :
    ((after calls).providers.flatMap fun provider =>
        ((after calls).typesOf kind provider).map fun type => (provider, type)).Perm
      (((after calls).types kind).entries.map fun entry => (entry.2.provider, entry.1)) := by
  have taken (provider : String) :
      ((after calls).typesOf kind provider).map (fun type => (provider, type)) =
        (((after calls).types kind).entries.filter fun entry =>
          entry.2.provider = provider).map fun entry => (entry.2.provider, entry.1) := by
    rw [typesOf, List.map_map]
    apply List.map_congr_left
    intro entry member
    have own := of_decide_eq_true (List.mem_filter.mp member).2
    rw [Function.comp_apply, own]
  simp only [taken]
  rw [← List.map_flatMap]
  have distinct : (after calls).providers.Nodup := providers_after calls ▸ nodup_eraseDups _
  have all := flatMap_filter_perm (fun entry : String × RegisteredType => entry.2.provider)
    distinct (covered_after calls kind)
  exact all.map _

theorem length_typesOf (calls : List RegistryCall) (kind : EntityKind) :
    ((after calls).providers.flatMap ((after calls).typesOf kind)).length =
      ((after calls).types kind).size := by
  have same := (typesOf_perm calls kind).length_eq
  simpa [List.length_flatMap, Table.size] using same

/-- The registry of a document or of a directory is reached by registering its documents. -/
theorem exists_calls_of_registerFiles {tree : Files.FileTree} {registry result : Registry}
    {files : List String} (done : registerFiles tree registry files = .ok result) :
    ∃ calls : List RegistryCall, result = calls.foldl perform registry := by
  induction files generalizing registry with
  | nil =>
      cases done
      exact ⟨[], rfl⟩
  | cons file rest ih =>
      obtain ⟨document, _, later⟩ := bind_eq_ok_iff.mp done
      cases registered : registry.registerProvider document with
      | mk reached failure =>
          simp only [registered] at later
          cases failure with
          | some error => cases later
          | none =>
              obtain ⟨calls, rfl⟩ := ih later
              refine ⟨.document document :: calls, ?_⟩
              rw [List.foldl_cons, perform, registered]

theorem exists_calls_of_loadRegistry {tree : Files.FileTree} {path : String}
    {registry : Registry} (done : loadRegistry tree path = .ok registry) :
    ∃ calls, registry = after calls := by
  unfold loadRegistry at done
  split_ifs at done with present
  cases found : Files.documentFiles tree path with
  | error place =>
      rw [found] at done
      cases done
  | ok files =>
      rw [found] at done
      exact exists_calls_of_registerFiles done

end Registry

namespace Command

open Registry

/-! ### Listings -/

/-- What a listing says of one provider. -/
def listed (registry : Registry) (provider : String) : Value := .object [
  ("resources", .list ((registry.typesOf .resource provider).map .string)),
  ("data_sources", .list ((registry.typesOf .dataSource provider).map .string))]

/-- The lines of a listing that has the parts of some providers. -/
def listingLines (registry : Registry) (providers : List String) (asJson : Bool) : List String :=
  if asJson then [(Value.object (providers.map fun provider =>
    (provider, listed registry provider))).pretty]
  else providers.flatMap (providerLines registry)

theorem listingLines_eq (registry : Registry) {providers : List String}
    (distinct : providers.Nodup) (asJson : Bool) :
    (if asJson then [(listingValue registry providers).pretty]
      else providers.flatMap (providerLines registry)) =
      listingLines registry providers asJson := by
  have members := foldl_putEntry_of_nodup (listed registry) distinct
  unfold listingLines
  rw [← members]
  rfl

theorem schemaLines_all {registry : Registry} (distinct : registry.providers.Nodup)
    (path : String) (asJson : Bool) :
    schemaLines registry path none asJson =
      .ok (if registry.isEmpty then ["⚠️  No schemas found in " ++ path]
        else listingLines registry registry.providers asJson) := by
  unfold schemaLines
  by_cases empty : registry.isEmpty = true
  · rw [if_pos empty, if_pos empty]
  · rw [if_neg empty, if_neg empty, ← listingLines_eq registry distinct]

theorem schemaLines_one {registry : Registry} (distinct : registry.providers.Nodup)
    (path provider : String) (asJson : Bool) :
    schemaLines registry path (some provider) asJson =
      if registry.isEmpty then .ok ["⚠️  No schemas found in " ++ path]
      else if provider ∈ registry.providers then
        .ok (listingLines registry [provider] asJson)
      else .error (.unknownProvider provider path) := by
  unfold schemaLines
  by_cases empty : registry.isEmpty = true
  · rw [if_pos empty, if_pos empty]
  · rw [if_neg empty, if_neg empty]
    by_cases inside : provider ∈ registry.providers
    · have own : (registry.providers.filter fun other => other = provider) = [provider] := by
        rw [List.filter_eq, List.count_eq_one_of_mem distinct inside]
        rfl
      rw [if_pos inside, ← listingLines_eq registry (List.nodup_singleton provider)]
      simp only [own]
    · have none : (registry.providers.filter fun other => other = provider) = [] := by
        rw [List.filter_eq, List.count_eq_zero_of_not_mem inside]
        rfl
      rw [if_neg inside]
      simp only [none]

end Command
end Stanza
