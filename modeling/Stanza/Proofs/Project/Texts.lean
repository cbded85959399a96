import Stanza.Proofs.Module.Stanzas
import Stanza.Proofs.Project.Schedules

set_option autoImplicit false

/-!
The texts of a project. Each module contributes its stanzas, and its companions after its
data sources; the texts of the project are all of these joined at once, module by module.
-/

namespace Stanza

/-- What a module renders: its resources and its data sources, with their companions. -/
structure ModuleParts where
  resources : List Rendered
  dataSources : List Rendered

namespace ModuleParts

def ofKind (parts : ModuleParts) : EntityKind → List Rendered
  | .resource => parts.resources
  | .dataSource => parts.dataSources

/-- The companions of the resources, then those of the data sources. -/
def companions (parts : ModuleParts) : List String :=
  parts.resources.flatMap Rendered.companions ++ parts.dataSources.flatMap Rendered.companions

def resourceTexts (parts : ModuleParts) : List String := parts.resources.map Rendered.text

def dataSourceTexts (parts : ModuleParts) : List String :=
  parts.dataSources.map Rendered.text ++ parts.companions

end ModuleParts

namespace Compiler

variable {compiler : Compiler}

/-- Compiling the kinds of a module one by one gives these parts. -/
def Makes (compiler : Compiler) (module : Module) (parts : ModuleParts) : Prop :=
  ∀ kind, compiler.compileKind module kind = .ok (parts.ofKind kind)

theorem exists_parts_of_compile {module : Module} {text : ModuleText}
    (compiled : compiler.compile module = .ok text) :
    ∃ parts, compiler.Makes module parts ∧
      text.resources = Text.joinStanzas parts.resourceTexts ∧
      text.dataSources = Text.joinStanzas parts.dataSourceTexts := by
  obtain ⟨resources, resourcesAre, rest⟩ := bind_eq_ok_iff.mp compiled
  obtain ⟨dataSources, sourcesAre, same⟩ := bind_eq_ok_iff.mp rest
  cases same
  refine ⟨⟨resources, dataSources⟩, ?_, rfl, rfl⟩
  intro kind
  cases kind with
  | resource => exact resourcesAre
  | dataSource => exact sourcesAre

/-- Texts that are joined module by module and then once more are joined at once. -/
theorem exists_parts_of_compileModules {schedule : Schedule} {modules : List Module}
    {texts : List ModuleText}
    (compiled : compileModules schedule compiler modules = .ok texts) :
    ∃ parts, List.Forall₂ compiler.Makes modules parts ∧
      Text.joinStanzas (texts.map ModuleText.resources) =
        Text.joinStanzas (parts.flatMap ModuleParts.resourceTexts) ∧
      Text.joinStanzas (texts.map ModuleText.dataSources) =
        Text.joinStanzas (parts.flatMap ModuleParts.dataSourceTexts) := by
  have collected : ∃ parts, List.Forall₂ compiler.Makes modules parts ∧
      texts.map ModuleText.resources =
        (parts.map ModuleParts.resourceTexts).map Text.joinStanzas ∧
      texts.map ModuleText.dataSources =
        (parts.map ModuleParts.dataSourceTexts).map Text.joinStanzas := by
    have pairs := (compileModules_eq_ok_iff compiler modules schedule).mp compiled
    clear compiled
    induction pairs with
    | nil => exact ⟨[], .nil, rfl, rfl⟩
    | cons first _ ih =>
        obtain ⟨part, made, resources, dataSources⟩ := exists_parts_of_compile first
        obtain ⟨parts, others, resourceTexts, sourceTexts⟩ := ih
        refine ⟨part :: parts, .cons made others, ?_, ?_⟩
        · rw [List.map_cons, resources, resourceTexts]
          rfl
        · rw [List.map_cons, dataSources, sourceTexts]
          rfl
  obtain ⟨parts, made, resources, dataSources⟩ := collected
  refine ⟨parts, made, ?_, ?_⟩
  · rw [resources, Text.joinStanzas_map_joinStanzas, List.flatMap]
  · rw [dataSources, Text.joinStanzas_map_joinStanzas, List.flatMap]

/-! ### Registered types -/

/-- A module compiles only when all types that it mentions are registered. -/
theorem contains_of_compileKind {module : Module} {kind : EntityKind} {compiled : List Rendered}
    (accepted : compiler.compileKind module kind = .ok compiled) {type : String}
    (mentioned : type ∈ (module.declarations kind).keys) :
    compiler.registry.contains kind type = true := by
  obtain ⟨groups, groupsAre, _⟩ := bind_eq_ok_iff.mp accepted
  obtain ⟨entry, member, rfl⟩ := List.mem_map.mp mentioned
  obtain ⟨group, _, found⟩ := exists_right_of_mem ((mapM_eq_ok_iff _ _ _).mp groupsAre) member
  unfold compileType at found
  unfold Registry.contains Table.contains
  cases registered : (compiler.registry.types kind).get? entry.1 with
  | some type => rfl
  | none =>
      have unknown : compiler.registry.get? kind entry.1 = none := by
        unfold Registry.get?
        rw [registered]
        rfl
      rw [unknown] at found
      cases found

theorem registered_eq_declared {module : Module} {parts : ModuleParts}
    (made : compiler.Makes module parts) (kind : EntityKind) :
    module.registered compiler.registry kind = module.declared kind := by
  apply List.filter_eq_self.mpr
  intro group member
  apply contains_of_compileKind (made kind)
  rw [← Module.declared_types]
  exact List.mem_map_of_mem member

/-! ### Stanzas around the bodies of the values -/

/-- Each declared value of the module has its rendering among the bodies. -/
def RendersAll (compiler : Compiler) (module : Module) (bodies : ModuleParts) : Prop :=
  ∀ kind, List.Forall₂ (compiler.Renders module kind) (module.instances kind)
    (bodies.ofKind kind)

theorem exists_bodies_of_makes {module : Module} {parts : ModuleParts}
    (made : compiler.Makes module parts) :
    ∃ bodies, compiler.RendersAll module bodies ∧ bodies.companions = parts.companions ∧
      ∀ kind, (parts.ofKind kind).map Rendered.text =
        module.stanzas kind (bodies.ofKind kind) := by
  have bodiesOf (kind : EntityKind) :=
    exists_bodies compiler module kind (compileKind_eq_ok compiler module kind (made kind))
  obtain ⟨resources, resourcePairs, resourceTexts, resourceCompanions⟩ := bodiesOf .resource
  obtain ⟨dataSources, sourcePairs, sourceTexts, sourceCompanions⟩ := bodiesOf .dataSource
  refine ⟨⟨resources, dataSources⟩, ?_, ?_, ?_⟩
  · intro kind
    cases kind with
    | resource => exact resourcePairs
    | dataSource => exact sourcePairs
  · have fromResources : parts.resources.flatMap Rendered.companions =
        resources.flatMap Rendered.companions := resourceCompanions
    have fromSources : parts.dataSources.flatMap Rendered.companions =
        dataSources.flatMap Rendered.companions := sourceCompanions
    unfold ModuleParts.companions
    rw [fromResources, fromSources]
  · intro kind
    cases kind with
    | resource => exact resourceTexts
    | dataSource => exact sourceTexts

end Compiler

/-! ### Counting declarations -/

theorem foldl_add_eq_length_flatMap {α β : Type} {size : α → Nat} {parts : α → List β}
    {items : List α} (sizes : ∀ item ∈ items, (parts item).length = size item) :
    (items.map size).foldl (· + ·) 0 = (items.flatMap parts).length := by
  have counted (sofar : Nat) :
      (items.map size).foldl (· + ·) sofar = sofar + (items.flatMap parts).length := by
    induction items generalizing sofar with
    | nil => rfl
    | cons item rest ih =>
        have here := sizes item List.mem_cons_self
        rw [List.map_cons, List.foldl_cons, ih fun other member =>
          sizes other (List.mem_cons_of_mem item member), List.flatMap_cons, List.length_append,
          here, Nat.add_assoc]
  rw [counted, Nat.zero_add]

/-- The same for items that stand beside others. -/
theorem foldl_add_eq_length_flatMap_fst {α β γ : Type} {size : α → Nat}
    {parts : α × β → List γ} {pairs : List (α × β)} {items : List α}
    (first : pairs.map Prod.fst = items)
    (sizes : ∀ pair ∈ pairs, (parts pair).length = size pair.1) :
    (items.map size).foldl (· + ·) 0 = (pairs.flatMap parts).length := by
  rw [← first, List.map_map]
  exact foldl_add_eq_length_flatMap sizes

theorem Module.count_eq_length_instances (module : Module) (kind : EntityKind) :
    module.count kind = (module.instances kind).length := by
  unfold count Table.values
  rw [List.map_map]
  exact foldl_add_eq_length_flatMap fun entry _ => List.length_map _

/-! ### The paragraphs of a project -/

/-- The stanzas of all declarations of a kind, module by module. -/
def declaredStanzas (kind : EntityKind) (modules : List Module) (bodies : List ModuleParts) :
    List String :=
  (modules.zip bodies).flatMap fun made => made.1.stanzas kind (made.2.ofKind kind)

/-- The stanzas of the data sources, those of each module before its companions. -/
def dataSourceParagraphs (modules : List Module) (bodies : List ModuleParts) : List String :=
  (modules.zip bodies).flatMap fun made =>
    made.1.stanzas .dataSource made.2.dataSources ++ Text.paragraphs made.2.companions

namespace Compiler

variable {compiler : Compiler}

theorem exists_bodies_of_parts (invariant : Registry.Braced compiler.registry)
    {modules : List Module} {parts : List ModuleParts}
    (made : List.Forall₂ compiler.Makes modules parts) :
    ∃ bodies, List.Forall₂ compiler.RendersAll modules bodies ∧
      Text.paragraphs (parts.flatMap ModuleParts.resourceTexts) =
        declaredStanzas .resource modules bodies ∧
      Text.paragraphs (parts.flatMap ModuleParts.dataSourceTexts) =
        dataSourceParagraphs modules bodies := by
  induction made with
  | nil => exact ⟨[], .nil, rfl, rfl⟩
  | @cons module part _ _ first _ ih =>
      obtain ⟨body, rendered, companions, stanzas⟩ := exists_bodies_of_makes first
      obtain ⟨bodies, others, resources, dataSources⟩ := ih
      have kept (kind : EntityKind) :
          Text.paragraphs ((part.ofKind kind).map Rendered.text) =
            module.stanzas kind (body.ofKind kind) := by
        rw [stanzas]
        exact Text.paragraphs_eq_self (framed_stanzas invariant (rendered kind))
      refine ⟨body :: bodies, .cons rendered others, ?_, ?_⟩
      · have here : Text.paragraphs part.resourceTexts = module.stanzas .resource body.resources :=
          kept .resource
        rw [List.flatMap_cons, Text.paragraphs_append, resources, here]
        rfl
      · have here : Text.paragraphs part.dataSourceTexts =
            module.stanzas .dataSource body.dataSources ++ Text.paragraphs body.companions := by
          unfold ModuleParts.dataSourceTexts
          rw [Text.paragraphs_append, companions]
          exact congrArg (· ++ Text.paragraphs part.companions) (kept .dataSource)
        rw [List.flatMap_cons, Text.paragraphs_append, dataSources, here]
        rfl

/-- A project has one stanza for each declaration that its modules count. -/
theorem length_declaredStanzas {modules : List Module} {bodies : List ModuleParts}
    (rendered : List.Forall₂ compiler.RendersAll modules bodies) (kind : EntityKind) :
    (declaredStanzas kind modules bodies).length =
      (modules.map fun module => module.count kind).foldl (· + ·) 0 := by
  have first : (modules.zip bodies).map Prod.fst = modules :=
    List.map_fst_zip (Nat.le_of_eq rendered.length_eq)
  refine (foldl_add_eq_length_flatMap_fst first ?_).symm
  intro made member
  have paired := (List.forall₂_zip rendered member kind).length_eq
  rw [Module.stanzas, List.length_zipWith, ← paired, Nat.min_self,
    Module.count_eq_length_instances]

end Compiler
end Stanza
