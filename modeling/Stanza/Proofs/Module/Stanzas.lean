import Stanza.Module
import Stanza.Proofs.Registry.Runs
import Stanza.Proofs.Render.Steps
import Stanza.Proofs.Text.Paragraphs

set_option autoImplicit false

/-!
The text of a compiled module: one stanza for each declared instance, in order of
declaration, each around the text that its value has on its own; the companions of all of
them follow the data sources. No stanza is trimmed or left out on the way.
-/

namespace Stanza

open Render

structure Instance where
  type : String
  name : String
  value : Value

/-- The declared instances of a kind, in order of declaration. -/
def Module.instances (module : Module) (kind : EntityKind) : List Instance :=
  (module.declarations kind).entries.flatMap fun entry =>
    entry.2.entries.map fun named => ⟨entry.1, named.1, named.2⟩

/-! ### Bodies in braces -/

theorem bodyText_braced (level : Nat) (body : String) :
    ∃ front, bodyText true level body = front ++ "\x7d" := ⟨_, rfl⟩

theorem renderAt_storable {renderer : Renderer} {resourceType : String} {schema : Schema}
    {value : Value} {location : Location} {rendered : Rendered}
    (storable : Registry.Storable schema)
    (accepted : renderer.renderAt resourceType schema value location = .ok rendered) :
    ∃ front, rendered.text = front ++ "\x7d" := by
  obtain ⟨isRecord, marked⟩ := storable
  cases schema with
  | record label fields =>
      have nested : (Schema.record label fields).height + renderer.reach =
          (Schema.heightOfFields fields + renderer.reach) + 1 := by
        rw [Schema.height]
        omega
      rw [Renderer.renderAt, nested, Renderer.renderNode_record] at accepted
      unfold renderObject at accepted
      cases isObject : value.asObject? with
      | none =>
          rw [isObject] at accepted
          cases accepted
      | some all =>
          rw [isObject] at accepted
          obtain ⟨members, _, rest⟩ := bind_eq_ok_iff.mp accepted
          obtain ⟨groups, _, same⟩ := bind_eq_ok_iff.mp rest
          cases same
          simp only [marked, Bool.true_or]
          exact bodyText_braced 0 _
  | scalar label kind => cases isRecord
  | list label element => cases isRecord
  | dictionary label element => cases isRecord
  | union label alternatives => cases isRecord

/-- A stanza starts with its keyword and ends with its brace, so nothing of it is blank at
either end, whatever its type and address are. -/
theorem framed_stanzaText (kind : EntityKind) (type address : String) {body : String}
    (closed : ∃ front, body = front ++ "\x7d") :
    Text.Framed (Compiler.stanzaText kind type address body) := by
  obtain ⟨front, rfl⟩ := closed
  constructor
  · cases kind with
    | resource => exact ⟨'r', by simp [Compiler.stanzaText, EntityKind.keyword], by decide⟩
    | dataSource => exact ⟨'d', by simp [Compiler.stanzaText, EntityKind.keyword], by decide⟩
  · refine ⟨'\x7d', ?_, by decide⟩
    rw [Compiler.stanzaText, ← String.append_assoc, String.toList_append]
    exact List.getLast?_concat

/-! ### The stanzas of a module -/

namespace Module

def stanza (module : Module) (kind : EntityKind) (entry : Instance) (body : Rendered) : String :=
  kind.keyword ++ " \"" ++ entry.type ++ "\" \"" ++ (module.stem ++ entry.name) ++ "\" " ++
    body.text

def stanzas (module : Module) (kind : EntityKind) (bodies : List Rendered) : List String :=
  List.zipWith (module.stanza kind) (module.instances kind) bodies

end Module

namespace Compiler

variable (compiler : Compiler) (module : Module) (kind : EntityKind)

/-- The value of an instance has this rendering, on its own and under its registered schema. -/
def Renders (entry : Instance) (body : Rendered) : Prop :=
  ∃ schema, compiler.registry.get? kind entry.type = some schema ∧
    compiler.renderer.renderAt entry.type schema entry.value
      (.root (entry.type ++ "." ++ module.address entry.name)) = .ok body

/-- What compiling makes of an instance: its stanza, with the companions of its value. -/
def Compiles (entry : Instance) (compiled : Rendered) : Prop :=
  ∃ body, compiler.Renders module kind entry body ∧
    compiled = ⟨module.stanza kind entry body, body.companions⟩

theorem compileInstance_eq_ok {type name : String} {value : Value} {schema : Schema}
    {compiled : Rendered} (registered : compiler.registry.get? kind type = some schema)
    (accepted : compiler.compileInstance kind module type schema (name, value) = .ok compiled) :
    compiler.Compiles module kind ⟨type, name, value⟩ compiled := by
  unfold compileInstance at accepted
  cases rendered : compiler.renderer.renderAt type schema value
      (.root (type ++ "." ++ module.address name)) with
  | error error =>
      simp only [rendered] at accepted
      cases accepted
  | ok body =>
      simp only [rendered] at accepted
      cases accepted
      exact ⟨body, ⟨schema, registered, rendered⟩, rfl⟩

theorem compileType_eq_ok {entry : String × Table Value} {compiled : List Rendered}
    (accepted : compiler.compileType kind module entry = .ok compiled) :
    List.Forall₂ (compiler.Compiles module kind)
      (entry.2.entries.map fun named => ⟨entry.1, named.1, named.2⟩) compiled := by
  unfold compileType at accepted
  cases registered : compiler.registry.get? kind entry.1 with
  | none =>
      simp only [registered] at accepted
      cases accepted
  | some schema =>
      simp only [registered] at accepted
      rw [List.forall₂_map_left_iff]
      exact ((mapM_eq_ok_iff _ _ _).mp accepted).imp fun named result found =>
        compiler.compileInstance_eq_ok module kind registered found

theorem compileKind_eq_ok {compiled : List Rendered}
    (accepted : compiler.compileKind module kind = .ok compiled) :
    List.Forall₂ (compiler.Compiles module kind) (module.instances kind) compiled := by
  obtain ⟨groups, groupsAre, same⟩ := bind_eq_ok_iff.mp accepted
  cases same
  have pairs := ((mapM_eq_ok_iff _ _ _).mp groupsAre).imp fun entry group found =>
    compiler.compileType_eq_ok module kind found
  rw [Module.instances, List.flatMap]
  exact List.rel_flatten ((List.forall₂_map_left_iff).mpr pairs)

theorem exists_bodies {entries : List Instance} {compiled : List Rendered}
    (pairs : List.Forall₂ (compiler.Compiles module kind) entries compiled) :
    ∃ bodies, List.Forall₂ (compiler.Renders module kind) entries bodies ∧
      compiled.map Rendered.text = List.zipWith (module.stanza kind) entries bodies ∧
      compiled.flatMap Rendered.companions = bodies.flatMap Rendered.companions := by
  induction pairs with
  | nil => exact ⟨[], .nil, rfl, rfl⟩
  | cons first _ ih =>
      obtain ⟨body, rendered, rfl⟩ := first
      obtain ⟨bodies, others, texts, companions⟩ := ih
      refine ⟨body :: bodies, .cons rendered others, ?_, ?_⟩
      · rw [List.map_cons, texts, List.zipWith_cons_cons]
      · rw [List.flatMap_cons, List.flatMap_cons, companions]

variable {compiler module kind}

/-- Registered schemas stand in braces, so stanzas have no blank ends. -/
theorem framed_stanzas (invariant : Registry.Braced compiler.registry)
    {entries : List Instance} {bodies : List Rendered}
    (pairs : List.Forall₂ (compiler.Renders module kind) entries bodies) :
    ∀ text ∈ List.zipWith (module.stanza kind) entries bodies, Text.Framed text := by
  induction pairs with
  | nil =>
      intro text member
      cases member
  | @cons entry body _ _ first _ ih =>
      obtain ⟨schema, registered, rendered⟩ := first
      rw [List.zipWith_cons_cons, List.forall_mem_cons]
      refine ⟨?_, ih⟩
      exact framed_stanzaText kind entry.type (module.stem ++ entry.name)
        (renderAt_storable (Registry.storable_get? invariant registered) rendered)

/--
The text of a compiled module is exactly its declared stanzas, in order of declaration and
each around the text of its own value. Trimmed companions that are not blank follow the data
sources: those of all resources, then those of all data sources. No stanza is changed.
-/
theorem compile_eq_declared_stanzas (calls : List RegistryCall) (renderer : Renderer)
    (module : Module) (text : ModuleText)
    (compiled : compile ⟨Registry.after calls, renderer⟩ module = .ok text) :
    ∃ resources dataSources : List Rendered,
      List.Forall₂ (Renders ⟨Registry.after calls, renderer⟩ module .resource)
        (module.instances .resource) resources ∧
      List.Forall₂ (Renders ⟨Registry.after calls, renderer⟩ module .dataSource)
        (module.instances .dataSource) dataSources ∧
      text.resources = Text.separated (module.stanzas .resource resources) ∧
      text.dataSources = Text.separated (module.stanzas .dataSource dataSources ++
        (((resources ++ dataSources).flatMap Rendered.companions).map Text.trim).filter
          fun companion => companion ≠ "") ∧
      ∀ stanza ∈ module.stanzas .resource resources ++ module.stanzas .dataSource dataSources,
        Text.trim stanza = stanza ∧ stanza ≠ "" := by
  have invariant := Registry.braced_after calls
  obtain ⟨compiledResources, resourcesAre, rest⟩ := bind_eq_ok_iff.mp compiled
  obtain ⟨compiledSources, sourcesAre, same⟩ := bind_eq_ok_iff.mp rest
  cases same
  obtain ⟨resources, resourcePairs, resourceTexts, resourceCompanions⟩ :=
    exists_bodies _ _ _ (compileKind_eq_ok _ _ _ resourcesAre)
  obtain ⟨dataSources, sourcePairs, sourceTexts, sourceCompanions⟩ :=
    exists_bodies _ _ _ (compileKind_eq_ok _ _ _ sourcesAre)
  have framedResources := framed_stanzas invariant resourcePairs
  have framedSources := framed_stanzas invariant sourcePairs
  refine ⟨resources, dataSources, resourcePairs, sourcePairs, ?_, ?_, ?_⟩
  · change Text.joinStanzas (compiledResources.map Rendered.text) = _
    rw [Text.joinStanzas_eq_separated, resourceTexts, Text.paragraphs_eq_self framedResources]
    rfl
  · change Text.joinStanzas (compiledSources.map Rendered.text ++
      (compiledResources.flatMap Rendered.companions ++
        compiledSources.flatMap Rendered.companions)) = _
    rw [Text.joinStanzas_eq_separated, sourceTexts, resourceCompanions, sourceCompanions,
      Text.paragraphs_append, Text.paragraphs_eq_self framedSources, List.flatMap_append]
    rfl
  · intro stanza member
    have framed : Text.Framed stanza := by
      rcases List.mem_append.mp member with inResources | inSources
      · exact framedResources stanza inResources
      · exact framedSources stanza inSources
    exact ⟨framed.trim_eq, framed.ne_empty⟩

/-- Answers every union with a reference, and brings a stanza and a blank text along. -/
def lookingUp : Resolver := fun _ _ _ =>
  ⟨["data \"lookup\" \"x\" \x7b\x7d\n", "  "], .ok (.direct "data.lookup.x.id")⟩

def linkSchema : Schema :=
  .record {} [⟨"target", true, .union {} [.scalar {} .string]⟩]

def linkCalls : List RegistryCall :=
  [.declaration ⟨.resource, "acme", "link", linkSchema⟩,
    .declaration ⟨.dataSource, "acme", "zone", .record {} []⟩]

def linkModule : Module :=
  (({ stem := "env_" } : Module).withResource "link" "a"
    (.object [("target", .string "x")])).withDataSource "zone" "z" (.object [])

theorem link_declared_stanzas :
    compile ⟨Registry.after linkCalls, ⟨lookingUp, {}, 0⟩⟩ linkModule =
        .ok ⟨"resource \"link\" \"env_a\" \x7b\n  target = data.lookup.x.id\n\x7d\n",
          "data \"zone\" \"env_z\" \x7b\n\x7d\n\ndata \"lookup\" \"x\" \x7b\x7d\n"⟩ ∧
      ∃ resources dataSources : List Rendered,
        List.Forall₂ (Renders ⟨Registry.after linkCalls, ⟨lookingUp, {}, 0⟩⟩ linkModule .resource)
          (linkModule.instances .resource) resources ∧
        "data \"zone\" \"env_z\" \x7b\n\x7d\n\ndata \"lookup\" \"x\" \x7b\x7d\n" =
          Text.separated (linkModule.stanzas .dataSource dataSources ++
            (((resources ++ dataSources).flatMap Rendered.companions).map Text.trim).filter
              fun companion => companion ≠ "") := by
  have compiled : compile ⟨Registry.after linkCalls, ⟨lookingUp, {}, 0⟩⟩ linkModule =
      .ok ⟨"resource \"link\" \"env_a\" \x7b\n  target = data.lookup.x.id\n\x7d\n",
        "data \"zone\" \"env_z\" \x7b\n\x7d\n\ndata \"lookup\" \"x\" \x7b\x7d\n"⟩ := by
    decide
  obtain ⟨resources, dataSources, rendered, _, _, text, _⟩ :=
    compile_eq_declared_stanzas linkCalls ⟨lookingUp, {}, 0⟩ linkModule _ compiled
  exact ⟨compiled, resources, dataSources, rendered, text⟩

end Compiler

end Stanza
