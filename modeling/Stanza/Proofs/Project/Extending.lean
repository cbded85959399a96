import Stanza.Proofs.Project.Manifests
import Stanza.Proofs.Registry.History

set_option autoImplicit false

/-!
Projects under a registry with more types. A module that compiles, or fails for another
reason than an unregistered type, does the same under every larger registry; and a project
with an output has the same output.
-/

namespace Stanza

/-! ### Outcomes that no further type can change -/

/-- Whatever comes out, it is not that a type is unregistered. -/
def KnowsTypes {α : Type} (outcome : Except CompileError α) : Prop :=
  ∀ kind type module, outcome ≠ .error (.undeclaredType kind type module)

theorem KnowsTypes.ok {α : Type} (result : α) : KnowsTypes (.ok result) := by
  intro kind type module failed
  cases failed

theorem KnowsTypes.first {α β : Type} {first : Except CompileError α}
    {next : α → Except CompileError β} (known : KnowsTypes (first >>= next)) :
    KnowsTypes first := by
  intro kind type module failed
  apply known kind type module
  rw [failed]
  rfl

theorem KnowsTypes.second {α β : Type} {first : Except CompileError α} {value : α}
    {next : α → Except CompileError β} (known : KnowsTypes (first >>= next))
    (done : first = .ok value) : KnowsTypes (next value) := by
  rw [done] at known
  exact known

/-- Steps that agree where the first one knows its types make the same traversal. -/
theorem mapM_eq_of_knowsTypes {α β : Type} {step other : α → Except CompileError β}
    (agree : ∀ item, KnowsTypes (step item) → other item = step item) {items : List α}
    (known : KnowsTypes (items.mapM step)) : items.mapM other = items.mapM step := by
  induction items with
  | nil => rfl
  | cons item rest ih =>
      rw [List.mapM_cons] at known
      have here := agree item known.first
      rw [List.mapM_cons, List.mapM_cons, here]
      cases done : step item with
      | error error => rfl
      | ok value => rw [ih (known.second done).first]

/-! ### Modules -/

section Modules

variable {registry next : Registry} {renderer : Renderer}

theorem get?_eq_of_grows (grows : registry.Grows next) {kind : EntityKind} {type : String}
    {schema : Schema} (found : registry.get? kind type = some schema) :
    next.get? kind type = some schema := by
  obtain ⟨stored, present, rfl⟩ := Option.map_eq_some_iff.mp found
  unfold Registry.get?
  rw [grows.get? present]
  rfl

theorem contains_of_grows (grows : registry.Grows next) {kind : EntityKind} {type : String}
    (present : registry.contains kind type = true) : next.contains kind type = true := by
  unfold Registry.contains Table.contains at present ⊢
  obtain ⟨stored, found⟩ := Option.isSome_iff_exists.mp present
  rw [grows.get? found]
  rfl

theorem compileType_of_grows (grows : registry.Grows next) {module : Module} {kind : EntityKind}
    {entry : String × Table Value}
    (known : KnowsTypes (Compiler.compileType ⟨registry, renderer⟩ kind module entry)) :
    Compiler.compileType ⟨next, renderer⟩ kind module entry =
      Compiler.compileType ⟨registry, renderer⟩ kind module entry := by
  unfold Compiler.compileType at known ⊢
  cases found : registry.get? kind entry.1 with
  | none =>
      rw [found] at known
      exact absurd rfl (known kind entry.1 module.label)
  | some schema =>
      rw [get?_eq_of_grows grows found]
      rfl

theorem compileKind_of_grows (grows : registry.Grows next) {module : Module} {kind : EntityKind}
    (known : KnowsTypes (Compiler.compileKind ⟨registry, renderer⟩ module kind)) :
    Compiler.compileKind ⟨next, renderer⟩ module kind =
      Compiler.compileKind ⟨registry, renderer⟩ module kind := by
  unfold Compiler.compileKind at known ⊢
  rw [mapM_eq_of_knowsTypes (fun _ known => compileType_of_grows grows known) known.first]

theorem compile_of_grows (grows : registry.Grows next) {module : Module}
    (known : KnowsTypes (Compiler.compile ⟨registry, renderer⟩ module)) :
    Compiler.compile ⟨next, renderer⟩ module = Compiler.compile ⟨registry, renderer⟩ module := by
  unfold Compiler.compile at known ⊢
  rw [compileKind_of_grows grows known.first]
  cases resources : Compiler.compileKind ⟨registry, renderer⟩ module .resource with
  | error error => rfl
  | ok compiled =>
      have rest := known.second resources
      simp only [bind, Except.bind]
      rw [compileKind_of_grows grows rest.first]

theorem compileModules_of_grows (grows : registry.Grows next) {schedule : Schedule}
    (later : Schedule) {modules : List Module} {texts : List ModuleText}
    (compiled : compileModules schedule ⟨registry, renderer⟩ modules = .ok texts) :
    compileModules later ⟨next, renderer⟩ modules = .ok texts := by
  rw [compileModules_eq_ok_iff] at compiled ⊢
  apply compiled.imp
  intro module text made
  rw [compile_of_grows grows (made ▸ KnowsTypes.ok text), made]

end Modules

/-! ### Manifests -/

section Manifests

variable {policy : CollisionPolicy} {registry next : Registry} {kind : EntityKind}

theorem claimTypes_of_contains {module : Module} {entries : List (String × Table Value)}
    (registered : ∀ entry ∈ entries, registry.contains kind entry.1 = true)
    (still : ∀ entry ∈ entries, next.contains kind entry.1 = true) (claims : Claims) :
    Claims.claimTypes policy next kind module claims entries =
      Claims.claimTypes policy registry kind module claims entries := by
  induction entries generalizing claims with
  | nil => rfl
  | cons entry rest ih =>
      obtain ⟨first, others⟩ := List.forall_mem_cons.mp registered
      obtain ⟨firstStill, othersStill⟩ := List.forall_mem_cons.mp still
      obtain ⟨type, instances⟩ := entry
      rw [Claims.claimTypes, Claims.claimTypes, if_pos first, if_pos firstStill]
      simp only [ih others othersStill]

/-- Manifests leave out nothing once all types of the modules are registered. -/
theorem claimModules_of_contains {modules : List Module}
    (registered : ∀ module ∈ modules, ∀ entry ∈ (module.declarations kind).entries,
      registry.contains kind entry.1 = true)
    (still : ∀ module ∈ modules, ∀ entry ∈ (module.declarations kind).entries,
      next.contains kind entry.1 = true) (claims : Claims) :
    Claims.claimModules policy next kind claims modules =
      Claims.claimModules policy registry kind claims modules := by
  induction modules generalizing claims with
  | nil => rfl
  | cons module rest ih =>
      obtain ⟨first, others⟩ := List.forall_mem_cons.mp registered
      obtain ⟨firstStill, othersStill⟩ := List.forall_mem_cons.mp still
      rw [Claims.claimModules, Claims.claimModules, claimTypes_of_contains first firstStill]
      simp only [ih others othersStill]

theorem buildManifest_of_grows {renderer : Renderer} (grows : registry.Grows next)
    {schedule : Schedule} {modules : List Module} {texts : List ModuleText}
    (compiled : compileModules schedule ⟨registry, renderer⟩ modules = .ok texts) :
    buildManifest policy next modules kind = buildManifest policy registry modules kind := by
  -- A module that compiles has no unregistered type for the manifest to leave out.
  have registered : ∀ module ∈ modules, ∀ entry ∈ (module.declarations kind).entries,
      registry.contains kind entry.1 = true := by
    intro module member entry listed
    obtain ⟨text, _, made⟩ :=
      exists_right_of_mem ((compileModules_eq_ok_iff _ _ _).mp compiled) member
    have mentioned : entry.1 ∈ (module.declarations kind).keys := List.mem_map_of_mem listed
    obtain ⟨resources, ofResources, rest⟩ := bind_eq_ok_iff.mp made
    obtain ⟨dataSources, ofSources, _⟩ := bind_eq_ok_iff.mp rest
    cases kind with
    | resource => exact Compiler.contains_of_compileKind ofResources mentioned
    | dataSource => exact Compiler.contains_of_compileKind ofSources mentioned
  unfold buildManifest
  rw [claimModules_of_contains registered]
  intro module member entry listed
  exact contains_of_grows grows (registered module member entry listed)

end Manifests

/-! ### Projects -/

theorem buildProject_of_grows {policy : CollisionPolicy} {schedule : Schedule}
    (later : Schedule) {registry next : Registry} {renderer : Renderer}
    (grows : registry.Grows next) {modules : List Module} {output : ProjectOutput}
    (built : buildProject policy schedule ⟨registry, renderer⟩ modules = .ok output) :
    buildProject policy later ⟨next, renderer⟩ modules = .ok output := by
  rw [buildProject_eq_ok_iff] at built ⊢
  obtain ⟨texts, resources, dataSources, compiled, resourcesText, dataSourcesText⟩ := built
  refine ⟨texts, ?_, ?_, compileModules_of_grows grows later compiled, resourcesText,
    dataSourcesText⟩
  · rw [← resources]
    exact buildManifest_of_grows grows compiled
  · rw [← dataSources]
    exact buildManifest_of_grows grows compiled

/--
Further calls on a registry, successful or not, change no output: a project that has an
output keeps it, in whatever order its modules complete, and a module that fails for another
reason than an unregistered type keeps its error.
-/
theorem performAll_keeps_outcomes (registry : Registry) (calls : List RegistryCall)
    (renderer : Renderer) :
    (∀ policy schedule later modules output,
      buildProject policy schedule ⟨registry, renderer⟩ modules = .ok output →
        buildProject policy later ⟨calls.foldl Registry.perform registry, renderer⟩ modules =
          .ok output) ∧
      ∀ module error,
        Compiler.compile ⟨registry, renderer⟩ module = .error error →
        (∀ kind type label, error ≠ .undeclaredType kind type label) →
          Compiler.compile ⟨calls.foldl Registry.perform registry, renderer⟩ module =
            .error error := by
  have grows := Registry.grows_performAll calls registry
  constructor
  · intro policy schedule later modules output built
    exact buildProject_of_grows later grows built
  · intro module error failed other
    have known : KnowsTypes (Compiler.compile ⟨registry, renderer⟩ module) := by
      intro kind type label undeclared
      rw [failed] at undeclared
      exact other kind type label (Except.error.inj undeclared)
    rw [compile_of_grows grows known, failed]

/-- A type that is there already, and a type that two modules could have meant. -/
def moreTypes : List RegistryCall :=
  [.declaration ⟨.resource, "beta", "link", .record {} []⟩,
    .declaration ⟨.dataSource, "beta", "link", .record {} []⟩]

def misshapen : Module := ({} : Module).withResource "link" "a" (.string "x")

theorem overlapping_with_moreTypes :
    ∃ output error,
      buildProject .lastWins .sequential
          ⟨Registry.after Compiler.linkCalls, ⟨Compiler.lookingUp, {}, 0⟩⟩ overlapping =
            .ok output ∧
        buildProject .lastWins (.concurrent [1, 0])
          ⟨moreTypes.foldl Registry.perform (Registry.after Compiler.linkCalls),
            ⟨Compiler.lookingUp, {}, 0⟩⟩ overlapping = .ok output ∧
        Compiler.compile ⟨Registry.after Compiler.linkCalls, ⟨Compiler.lookingUp, {}, 0⟩⟩
          misshapen = .error error ∧
        Compiler.compile ⟨moreTypes.foldl Registry.perform (Registry.after Compiler.linkCalls),
          ⟨Compiler.lookingUp, {}, 0⟩⟩ misshapen = .error error := by
  obtain ⟨projects, modules⟩ :=
    performAll_keeps_outcomes (Registry.after Compiler.linkCalls) moreTypes
      ⟨Compiler.lookingUp, {}, 0⟩
  refine ⟨_, _, rfl, projects .lastWins .sequential _ _ _ rfl, rfl, modules _ _ rfl ?_⟩
  intro kind type label same
  cases same

end Stanza
