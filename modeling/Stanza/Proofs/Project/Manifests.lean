import Stanza.Proofs.Project.Collisions
import Stanza.Proofs.Project.Texts

set_option autoImplicit false

/-!
Manifests and texts of built projects. A manifest lists the declared types and addresses in
the order in which they first occur and gives each the value of the last module that declares
it. The text has a stanza for every declaration, so the two have the same number of entries
exactly when no two modules share an address.
-/

namespace Stanza

namespace Module

/-- The addresses that the module declares for a type, in order of declaration. -/
def addresses (module : Module) (kind : EntityKind) (type : String) : List String :=
  (((module.declarations kind).get? type).getD ∅).keys.map module.address

variable (module : Module) (kind : EntityKind)

theorem grouped_declared (type : String) :
    Table.grouped type (module.declared kind) =
      (module.addressed (type, ((module.declarations kind).get? type).getD ∅)).2 := by
  cases found : (module.declarations kind).get? type with
  | none =>
      have absent : type ∉ (module.declared kind).map Prod.fst := by
        rw [declared_types]
        exact Table.get?_eq_none_iff.mp found
      rw [Table.grouped_of_not_mem absent]
      rfl
  | some instances =>
      exact Table.grouped_of_nodup (nodup_declared_types module kind)
        (List.mem_map.mpr ⟨(type, instances), Table.get?_eq_some_iff.mp found, rfl⟩)

theorem addresses_eq (type : String) :
    module.addresses kind type = (Table.grouped type (module.declared kind)).map Prod.fst := by
  rw [grouped_declared]
  unfold addresses addressed Table.keys
  rw [List.map_map, List.map_map]
  rfl

theorem findValue?_grouped_declared {type address : String} {value : Value} :
    findValue? address (Table.grouped type (module.declared kind)) = some value ↔
      module.Declares kind type address value := by
  rw [grouped_declared, findValue?_eq_some_iff (nodup_addressed module _), declares_iff]
  constructor
  · intro member
    cases found : (module.declarations kind).get? type with
    | none =>
        rw [found] at member
        cases member
    | some instances =>
        rw [found] at member
        exact ⟨_, List.mem_map.mpr ⟨(type, instances), Table.get?_eq_some_iff.mp found, rfl⟩,
          member⟩
  · rintro ⟨group, declared, member⟩
    rw [← grouped_declared, Table.grouped_of_nodup (nodup_declared_types module kind) declared]
    exact member

theorem mem_addresses_iff {type address : String} :
    address ∈ module.addresses kind type ↔ ∃ value, module.Declares kind type address value := by
  rw [addresses_eq, ← not_iff_not, ← findValue?_eq_none_iff, Option.eq_none_iff_forall_ne_some,
    not_exists]
  simp only [← findValue?_grouped_declared, ne_eq]

end Module

/-! ### Many modules -/

/-- The last module that declares an address for a type declares it with this value. -/
def LastDeclared (modules : List Module) (kind : EntityKind) (type address : String)
    (value : Value) : Prop :=
  ∃ before module after, modules = before ++ module :: after ∧
    module.Declares kind type address value ∧
      ∀ later ∈ after, ∀ other, ¬ later.Declares kind type address other

section Declarations

variable (modules : List Module) (kind : EntityKind)

theorem grouped_flatMap_declared (type : String) :
    Table.grouped type (modules.flatMap fun module => module.declared kind) =
      modules.flatMap fun module => Table.grouped type (module.declared kind) := by
  induction modules with
  | nil => rfl
  | cons module rest ih => rw [List.flatMap_cons, Table.grouped_append, ih, List.flatMap_cons]

/-- An address is looked for from the last module back, since none declares it twice. -/
theorem findValue?_reverse_grouped {type address : String} :
    findValue? address
        (Table.grouped type (modules.flatMap fun module => module.declared kind)).reverse =
      modules.reverse.findSome? fun module =>
        findValue? address (Table.grouped type (module.declared kind)) := by
  rw [grouped_flatMap_declared]
  induction modules with
  | nil => rfl
  | cons module rest ih =>
      have inModule : findValue? address (Table.grouped type (module.declared kind)).reverse =
          findValue? address (Table.grouped type (module.declared kind)) := by
        rw [Module.grouped_declared]
        exact findValue?_reverse (module.nodup_addressed _)
      rw [List.flatMap_cons, List.reverse_append, findValue?_append, ih, inModule,
        List.reverse_cons, List.findSome?_append, List.findSome?_singleton]

theorem findValue?_last_declared {type address : String} {value : Value} :
    findValue? address
        (Table.grouped type (modules.flatMap fun module => module.declared kind)).reverse =
      some value ↔ LastDeclared modules kind type address value := by
  have silent (module : Module) :
      findValue? address (Table.grouped type (module.declared kind)) = none ↔
        ∀ other, ¬ module.Declares kind type address other := by
    rw [Option.eq_none_iff_forall_ne_some]
    simp only [ne_eq, Module.findValue?_grouped_declared]
  rw [findValue?_reverse_grouped, List.findSome?_eq_some_iff]
  constructor
  · rintro ⟨after, module, before, split, found, later⟩
    refine ⟨before.reverse, module, after.reverse, ?_,
      (module.findValue?_grouped_declared kind).mp found, ?_⟩
    · rw [← List.reverse_reverse modules, split]
      simp
    · intro other member
      exact (silent other).mp (later other (List.mem_reverse.mp member))
  · rintro ⟨before, module, after, rfl, declares, later⟩
    refine ⟨after.reverse, module, before.reverse, by simp,
      (module.findValue?_grouped_declared kind).mpr declares, ?_⟩
    intro other member
    exact (silent other).mpr (later other (List.mem_reverse.mp member))

/-! ### The manifest of registered declarations -/

variable {modules kind} {registry : Registry}
  (known : ∀ module ∈ modules, module.registered registry kind = module.declared kind)

include known

theorem declaredManifest_eq :
    declaredManifest registry modules kind =
      (∅ : Manifest).insertGroups (modules.flatMap fun module => module.declared kind) := by
  have same : (modules.flatMap fun module => module.registered registry kind) =
      modules.flatMap fun module => module.declared kind := by
    unfold List.flatMap
    rw [List.map_congr_left known]
  unfold declaredManifest
  rw [same]

theorem keys_declaredManifest :
    (declaredManifest registry modules kind).keys =
      (modules.flatMap fun module => (module.declarations kind).keys).eraseDups := by
  rw [declaredManifest_eq known, Table.keys_insertGroups, Table.keys_empty, List.nil_append,
    List.map_flatMap]
  simp only [Module.declared_types]

theorem instances_declaredManifest {type : String} {instances : Table Value}
    (found : (declaredManifest registry modules kind).get? type = some instances) :
    instances = (∅ : Table Value).insertAll
      (Table.grouped type (modules.flatMap fun module => module.declared kind)) := by
  rw [declaredManifest_eq known, Table.get?_insertGroups] at found
  split at found
  · rw [Table.get?_empty, Option.getD_none] at found
    exact (Option.some.inj found).symm
  · cases found

theorem keys_instances_declaredManifest {type : String} {instances : Table Value}
    (found : (declaredManifest registry modules kind).get? type = some instances) :
    instances.keys = (modules.flatMap fun module => module.addresses kind type).eraseDups := by
  rw [instances_declaredManifest known found, Table.keys_insertAll, Table.keys_empty,
    List.nil_append, grouped_flatMap_declared, List.map_flatMap]
  simp only [Module.addresses_eq]

theorem get?_instances_declaredManifest {type address : String} {value : Value}
    {instances : Table Value}
    (found : (declaredManifest registry modules kind).get? type = some instances) :
    instances.get? address = some value ↔ LastDeclared modules kind type address value := by
  rw [instances_declaredManifest known found, Table.get?_insertAll, Table.get?_empty,
    Option.or_none, findValue?_last_declared]

/-! ### Counting the entries of a manifest -/

omit known in
theorem length_occurrences_of_module {module : Module} (position : Nat)
    (known : module.registered registry kind = module.declared kind) :
    (module.occurrences registry kind position).length = module.count kind := by
  unfold Module.occurrences Module.count Module.declared at *
  rw [known, List.flatMap_map]
  unfold Table.values
  rw [List.map_map]
  exact (foldl_add_eq_length_flatMap fun entry _ => by simp [Module.addressed, Table.size]).symm

theorem length_occurrences :
    (occurrences registry modules kind).length =
      (modules.map fun module => module.count kind).foldl (· + ·) 0 := by
  refine (foldl_add_eq_length_flatMap_fst (List.zipIdx_map_fst 0 modules) ?_).symm
  intro placed member
  have inside : placed.1 ∈ modules := List.fst_mem_of_mem_zipIdx member
  exact length_occurrences_of_module placed.2 (known placed.1 inside)

end Declarations

/-- The number of addresses in a manifest. -/
def manifestCount (manifest : Manifest) : Nat :=
  (manifest.values.map Table.size).foldl (· + ·) 0

def manifestKeys (kind : EntityKind) (manifest : Manifest) :
    List (EntityKind × String × String) :=
  manifest.entries.flatMap fun entry => entry.2.keys.map fun address => (kind, entry.1, address)

theorem manifestCount_eq (kind : EntityKind) (manifest : Manifest) :
    manifestCount manifest = (manifestKeys kind manifest).length := by
  unfold manifestCount Table.values
  rw [List.map_map]
  exact foldl_add_eq_length_flatMap fun entry _ => by simp [Table.keys, Table.size]

theorem nodup_manifestKeys (kind : EntityKind) (manifest : Manifest) :
    (manifestKeys kind manifest).Nodup := by
  have types : ((Table.groups manifest).map Prod.fst).Nodup := by
    unfold Table.groups
    rw [List.map_map]
    exact manifest.distinct
  have addresses : ∀ group ∈ Table.groups manifest, (group.2.map Prod.fst).Nodup := by
    intro group member
    obtain ⟨entry, _, rfl⟩ := List.mem_map.mp member
    exact entry.2.distinct
  have pairs := (Table.nodup_pairs types addresses).map (Prod.mk_right_injective kind)
  unfold manifestKeys Table.keys
  rw [Table.groups, List.flatMap_map, List.map_flatMap] at pairs
  simp only [List.map_map] at pairs ⊢
  exact pairs

theorem mem_manifestKeys {kind other : EntityKind} {manifest : Manifest} {type address : String} :
    (other, type, address) ∈ manifestKeys kind manifest ↔
      other = kind ∧ ∃ instances, manifest.get? type = some instances ∧
        address ∈ instances.keys := by
  unfold manifestKeys
  simp only [List.mem_flatMap, List.mem_map, Prod.mk.injEq]
  constructor
  · rintro ⟨⟨_, instances⟩, member, _, inside, rfl, rfl, rfl⟩
    exact ⟨rfl, instances, Table.get?_eq_some_iff.mpr member, inside⟩
  · rintro ⟨rfl, instances, found, inside⟩
    exact ⟨(type, instances), Table.get?_eq_some_iff.mp found, address, inside, rfl, rfl, rfl⟩

theorem length_eq_iff_nodup {α : Type} {distinct all : List α} (nodup : distinct.Nodup)
    (same : ∀ item, item ∈ distinct ↔ item ∈ all) :
    distinct.length = all.length ↔ all.Nodup := by
  constructor
  · intro equal
    have inside : distinct.Subperm all :=
      List.subperm_of_subset nodup fun item => (same item).mp
    exact (inside.perm_of_length_le (Nat.le_of_eq equal.symm)).nodup_iff.mp nodup
  · intro allDistinct
    exact ((List.perm_ext_iff_of_nodup nodup allDistinct).mpr same).length_eq

section Counting

variable {registry : Registry} {modules : List Module} {kind : EntityKind}
  (known : ∀ module ∈ modules, module.registered registry kind = module.declared kind)

include known

theorem mem_manifestKeys_iff_occurs {key : EntityKind × String × String} :
    key ∈ manifestKeys kind (declaredManifest registry modules kind) ↔
      key ∈ (occurrences registry modules kind).map Occurrence.key := by
  obtain ⟨other, type, address⟩ := key
  rw [mem_manifestKeys, List.mem_map]
  constructor
  · rintro ⟨rfl, instances, found, inside⟩
    rw [keys_instances_declaredManifest known found, List.mem_eraseDups, List.mem_flatMap]
      at inside
    obtain ⟨module, member, declaredHere⟩ := inside
    obtain ⟨value, declares⟩ := (module.mem_addresses_iff other).mp declaredHere
    obtain ⟨position, here⟩ := List.getElem?_of_mem member
    have registered : registry.contains other type = true := by
      obtain ⟨group, declared, _⟩ := (module.declares_iff other).mp declares
      rw [← known module member] at declared
      exact (List.mem_filter.mp declared).2
    exact ⟨⟨position, module, other, type, address⟩,
      (mem_occurrences registry other modules).mpr ⟨here, rfl, registered, value, declares⟩, rfl⟩
  · rintro ⟨occurrence, occurs, same⟩
    obtain ⟨here, sameKind, _, value, declares⟩ := (mem_occurrences registry kind modules).mp occurs
    obtain ⟨rfl, rfl, rfl⟩ : occurrence.kind = other ∧ occurrence.type = type ∧
        occurrence.address = address := by simpa [Occurrence.key] using same
    have member := List.mem_of_getElem? here
    have listed : occurrence.type ∈ (declaredManifest registry modules kind).keys := by
      obtain ⟨instances, _, typeFound, _⟩ := declares
      rw [keys_declaredManifest known, List.mem_eraseDups, List.mem_flatMap]
      exact ⟨occurrence.module, member, List.mem_map_of_mem (Table.get?_eq_some_iff.mp typeFound)⟩
    obtain ⟨instances, found⟩ := Table.exists_get?_of_mem_keys listed
    refine ⟨sameKind, instances, found, ?_⟩
    rw [keys_instances_declaredManifest known found, List.mem_eraseDups, List.mem_flatMap]
    exact ⟨occurrence.module, member,
      (occurrence.module.mem_addresses_iff kind).mpr ⟨value, declares⟩⟩

theorem manifestCount_eq_iff :
    (modules.map fun module => module.count kind).foldl (· + ·) 0 =
        manifestCount (declaredManifest registry modules kind) ↔
      ¬ ∃ type address i j, SharedAddress registry modules kind type address i j := by
  rw [eq_comm, manifestCount_eq kind, ← length_occurrences known, ← nodup_occurrences_iff,
    ← List.length_map Occurrence.key]
  exact length_eq_iff_nodup (nodup_manifestKeys kind _) fun _ => mem_manifestKeys_iff_occurs known

end Counting

/-! ### Built projects -/

theorem manifest_of_buildProject {policy : CollisionPolicy} {schedule : Schedule}
    {compiler : Compiler} {modules : List Module} {output : ProjectOutput}
    (built : buildProject policy schedule compiler modules = .ok output) (kind : EntityKind) :
    output.manifest kind = declaredManifest compiler.registry modules kind := by
  obtain ⟨_, resources, dataSources, _⟩ := buildProject_eq_ok_iff.mp built
  cases kind with
  | resource => exact buildManifest_eq_ok resources
  | dataSource => exact buildManifest_eq_ok dataSources

/--
A project that is built lists the declared types and addresses in its manifests, in the order
in which they first occur, each with the value of the last module that declares it. Its text
has one stanza for each declaration, as many as the modules count; these are as many as the
manifest has addresses exactly when no two modules share one. Resolvers have no part in it.
-/
theorem buildProject_lists_last_declarations (calls : List RegistryCall) (renderer : Renderer)
    (schedule : Schedule) (modules : List Module) (output : ProjectOutput)
    (built : buildProject .lastWins schedule ⟨Registry.after calls, renderer⟩ modules =
      .ok output) :
    (∀ kind,
      (output.manifest kind).keys =
        (modules.flatMap fun module => (module.declarations kind).keys).eraseDups ∧
      (∀ type instances, (output.manifest kind).get? type = some instances →
        instances.keys =
          (modules.flatMap fun module => module.addresses kind type).eraseDups ∧
        ∀ address value, instances.get? address = some value ↔
          LastDeclared modules kind type address value) ∧
      ∀ other result, buildProject .lastWins schedule ⟨Registry.after calls, other⟩ modules =
        .ok result → result.manifest kind = output.manifest kind) ∧
    ∃ bodies,
      List.Forall₂ (Compiler.RendersAll ⟨Registry.after calls, renderer⟩) modules bodies ∧
      output.resourcesText = Text.separated (declaredStanzas .resource modules bodies) ∧
      output.dataSourcesText = Text.separated (dataSourceParagraphs modules bodies) ∧
      ∀ kind,
        (declaredStanzas kind modules bodies).length =
          (modules.map fun module => module.count kind).foldl (· + ·) 0 ∧
        ((declaredStanzas kind modules bodies).length = manifestCount (output.manifest kind) ↔
          ¬ ∃ type address i j,
            SharedAddress (Registry.after calls) modules kind type address i j) := by
  obtain ⟨texts, _, _, compiled, resourcesText, dataSourcesText⟩ :=
    buildProject_eq_ok_iff.mp built
  obtain ⟨parts, made, resourcesJoined, dataSourcesJoined⟩ :=
    Compiler.exists_parts_of_compileModules compiled
  have known (kind : EntityKind) : ∀ module ∈ modules,
      module.registered (Registry.after calls) kind = module.declared kind := by
    intro module member
    obtain ⟨part, _, madeHere⟩ := exists_right_of_mem made member
    exact Compiler.registered_eq_declared madeHere kind
  obtain ⟨bodies, rendered, resources, dataSources⟩ :=
    Compiler.exists_bodies_of_parts (Registry.braced_after calls) made
  constructor
  · intro kind
    rw [manifest_of_buildProject built kind]
    refine ⟨keys_declaredManifest (known kind), ?_, ?_⟩
    · intro type instances found
      exact ⟨keys_instances_declaredManifest (known kind) found,
        fun _ _ => get?_instances_declaredManifest (known kind) found⟩
    · intro other result resultBuilt
      exact manifest_of_buildProject resultBuilt kind
  · refine ⟨bodies, rendered, ?_, ?_, ?_⟩
    · rw [resourcesText, resourcesJoined, Text.joinStanzas_eq_separated, resources]
    · rw [dataSourcesText, dataSourcesJoined, Text.joinStanzas_eq_separated, dataSources]
    · intro kind
      have counted := Compiler.length_declaredStanzas rendered kind
      rw [counted, manifest_of_buildProject built kind]
      exact ⟨rfl, manifestCount_eq_iff (known kind)⟩

/-- Two modules that part one address differently between stem and name. -/
def overlapping : List Module :=
  [({ stem := "env_" } : Module).withResource "link" "a" (.object [("target", .string "x")]),
    ({ stem := "env" } : Module).withResource "link" "_a" (.object [("target", .string "y")])]

theorem overlapping_counts_apart :
    ∃ output, buildProject .lastWins .sequential
        ⟨Registry.after Compiler.linkCalls, ⟨Compiler.lookingUp, {}, 0⟩⟩ overlapping =
          .ok output ∧
      (output.manifest .resource).keys = ["link"] ∧
      ∃ bodies, (declaredStanzas .resource overlapping bodies).length = 2 ∧
        (declaredStanzas .resource overlapping bodies).length ≠
          manifestCount (output.manifest .resource) := by
  refine ⟨_, rfl, ?_⟩
  obtain ⟨manifests, bodies, _, _, _, counts⟩ :=
    buildProject_lists_last_declarations Compiler.linkCalls ⟨Compiler.lookingUp, {}, 0⟩
      .sequential overlapping _ rfl
  have shared : SharedAddress (Registry.after Compiler.linkCalls) overlapping .resource "link"
      "env_a" 0 1 :=
    ⟨by decide, by decide, _, _, .object [("target", .string "x")],
      .object [("target", .string "y")], rfl, rfl, ⟨_, "a", rfl, rfl, rfl⟩,
      ⟨_, "_a", rfl, rfl, rfl⟩⟩
  refine ⟨(manifests .resource).1.trans (by decide), bodies, (counts .resource).1, ?_⟩
  exact fun same => (counts .resource).2.mp same ⟨_, _, _, _, shared⟩

end Stanza
