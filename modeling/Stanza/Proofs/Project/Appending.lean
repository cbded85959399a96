import Stanza.Proofs.Project.Manifests

set_option autoImplicit false

/-!
Projects put together from two lists of modules. The whole is built exactly when both parts
are; its texts are the joined texts of the parts, and its manifests those of the first part
with the entries of the second inserted. In turn, the first part that fails gives the error.
-/

namespace Stanza

variable {compiler : Compiler} {front back : List Module}

theorem declaredManifest_append (registry : Registry) (front back : List Module)
    (kind : EntityKind) :
    declaredManifest registry (front ++ back) kind =
      (declaredManifest registry front kind).insertGroups
        (declaredManifest registry back kind).groups := by
  unfold declaredManifest
  rw [List.flatMap_append, Table.insertGroups_append, Table.insertGroups_groups_insertGroups]

theorem compileModules_append_eq_ok (whole : Schedule) {left right : Schedule}
    {frontTexts backTexts : List ModuleText}
    (frontCompiled : compileModules left compiler front = .ok frontTexts)
    (backCompiled : compileModules right compiler back = .ok backTexts) :
    compileModules whole compiler (front ++ back) = .ok (frontTexts ++ backTexts) := by
  rw [compileModules_eq_ok_iff] at frontCompiled backCompiled ⊢
  exact List.rel_append frontCompiled backCompiled

theorem succeeds_compileModules_iff (schedule : Schedule) (modules : List Module) :
    Succeeds (compileModules schedule compiler modules) ↔
      ∀ module ∈ modules, Succeeds (compiler.compile module) := by
  rw [← succeeds_mapM_iff]
  unfold Succeeds
  simp only [compileModules_eq_ok_iff, mapM_eq_ok_iff]

theorem succeeds_buildProject_lastWins_iff (schedule : Schedule) (modules : List Module) :
    Succeeds (buildProject .lastWins schedule compiler modules) ↔
      Succeeds (compileModules schedule compiler modules) := by
  constructor
  · rintro ⟨output, built⟩
    obtain ⟨texts, _, _, compiled, _⟩ := buildProject_eq_ok_iff.mp built
    exact ⟨texts, compiled⟩
  · rintro ⟨texts, compiled⟩
    exact ⟨⟨_, _, _, _⟩, buildProject_eq_ok_iff.mpr ⟨texts, buildManifest_lastWins _ _ _,
      buildManifest_lastWins _ _ _, compiled, rfl, rfl⟩⟩

theorem buildProject_lastWins_eq_error_iff {schedule : Schedule} {modules : List Module}
    {error : ProjectError} :
    buildProject .lastWins schedule compiler modules = .error error ↔
      ∃ cause, error = .compile cause ∧
        compileModules schedule compiler modules = .error cause := by
  unfold buildProject
  rw [buildManifest_lastWins, buildManifest_lastWins]
  cases compileModules schedule compiler modules with
  | error cause => simp [bind, Except.bind, eq_comm]
  | ok texts => simp [bind, Except.bind, pure, Except.pure]

theorem compileModules_sequential_append_eq_error_iff {error : CompileError} :
    compileModules .sequential compiler (front ++ back) = .error error ↔
      compileModules .sequential compiler front = .error error ∨
        Succeeds (compileModules .sequential compiler front) ∧
          compileModules .sequential compiler back = .error error := by
  have cause (modules : List Module) :
      compileModules .sequential compiler modules = .error error ↔
        (modules.map compiler.compile).findSome? failure? = some error :=
    collectInOrder_eq_error_iff
  rw [cause, cause, List.map_append, List.findSome?_append]
  cases compiled : compileModules .sequential compiler front with
  | error first =>
      have found : (front.map compiler.compile).findSome? failure? = some first :=
        collectInOrder_eq_error_iff.mp compiled
      simp [found]
  | ok texts =>
      have nothing : (front.map compiler.compile).findSome? failure? = none := by
        apply Option.eq_none_iff_forall_ne_some.mpr
        intro first found
        have failed : compileModules .sequential compiler front = .error first :=
          collectInOrder_eq_error_iff.mpr found
        rw [compiled] at failed
        cases failed
      rw [nothing, cause back]
      simp

/--
The modules of two lists build together exactly when those of each list do. The texts are
then those of the two lists joined, which are the stanzas of all modules in order, and each
manifest is the first with the types and entries of the second inserted. In turn the error
of the first list comes first.
-/
theorem buildProject_append (compiler : Compiler) (front back : List Module) :
    (∀ whole left right,
      Succeeds (buildProject .lastWins whole compiler (front ++ back)) ↔
        Succeeds (buildProject .lastWins left compiler front) ∧
          Succeeds (buildProject .lastWins right compiler back)) ∧
    (∀ whole left right output first second,
      buildProject .lastWins whole compiler (front ++ back) = .ok output →
      buildProject .lastWins left compiler front = .ok first →
      buildProject .lastWins right compiler back = .ok second →
        output.resourcesText = Text.joinStanzas [first.resourcesText, second.resourcesText] ∧
        output.dataSourcesText =
          Text.joinStanzas [first.dataSourcesText, second.dataSourcesText] ∧
        (∃ parts, List.Forall₂ compiler.Makes (front ++ back) parts ∧
          output.resourcesText = Text.joinStanzas (parts.flatMap ModuleParts.resourceTexts) ∧
          output.dataSourcesText =
            Text.joinStanzas (parts.flatMap ModuleParts.dataSourceTexts)) ∧
        ∀ kind, output.manifest kind =
          (first.manifest kind).insertGroups (second.manifest kind).groups) ∧
    (∀ error, buildProject .lastWins .sequential compiler front = .error error →
      buildProject .lastWins .sequential compiler (front ++ back) = .error error) ∧
    (∀ error, Succeeds (buildProject .lastWins .sequential compiler front) →
      buildProject .lastWins .sequential compiler back = .error error →
        buildProject .lastWins .sequential compiler (front ++ back) = .error error) := by
  refine ⟨?_, ?_, ?_, ?_⟩
  · intro whole left right
    simp only [succeeds_buildProject_lastWins_iff, succeeds_compileModules_iff,
      List.forall_mem_append]
  · intro whole left right output first second built frontBuilt backBuilt
    obtain ⟨frontTexts, _, _, frontCompiled, frontResources, frontSources⟩ :=
      buildProject_eq_ok_iff.mp frontBuilt
    obtain ⟨backTexts, _, _, backCompiled, backResources, backSources⟩ :=
      buildProject_eq_ok_iff.mp backBuilt
    obtain ⟨texts, _, _, compiled, resources, sources⟩ := buildProject_eq_ok_iff.mp built
    obtain ⟨parts, made, joinedResources, joinedSources⟩ :=
      Compiler.exists_parts_of_compileModules compiled
    have together := compileModules_append_eq_ok whole frontCompiled backCompiled
    rw [compiled] at together
    cases together
    refine ⟨?_, ?_, ⟨parts, made, ?_, ?_⟩, ?_⟩
    · rw [resources, frontResources, backResources, List.map_append, Text.joinStanzas_append]
    · rw [sources, frontSources, backSources, List.map_append, Text.joinStanzas_append]
    · rw [resources, joinedResources]
    · rw [sources, joinedSources]
    · intro kind
      rw [manifest_of_buildProject built, manifest_of_buildProject frontBuilt,
        manifest_of_buildProject backBuilt, declaredManifest_append]
  · intro error failed
    obtain ⟨cause, rfl, atFront⟩ := buildProject_lastWins_eq_error_iff.mp failed
    exact buildProject_lastWins_eq_error_iff.mpr
      ⟨cause, rfl, compileModules_sequential_append_eq_error_iff.mpr (Or.inl atFront)⟩
  · intro error succeeded failed
    obtain ⟨cause, rfl, atBack⟩ := buildProject_lastWins_eq_error_iff.mp failed
    have compiled := (succeeds_buildProject_lastWins_iff .sequential front).mp succeeded
    exact buildProject_lastWins_eq_error_iff.mpr
      ⟨cause, rfl, compileModules_sequential_append_eq_error_iff.mpr
        (Or.inr ⟨compiled, atBack⟩)⟩

def links : Compiler :=
  ⟨Registry.after Compiler.linkCalls, ⟨Compiler.lookingUp, {}, 0⟩⟩

theorem overlapping_append : ∃ output first second : ProjectOutput,
    buildProject .lastWins (.concurrent [2, 0, 1]) links (overlapping ++ [Compiler.linkModule]) =
        .ok output ∧
      buildProject .lastWins .sequential links overlapping = .ok first ∧
      buildProject .lastWins .sequential links [Compiler.linkModule] = .ok second ∧
      output.dataSourcesText = Text.joinStanzas [first.dataSourcesText, second.dataSourcesText] ∧
      output.manifest .resource =
        (first.manifest .resource).insertGroups (second.manifest .resource).groups := by
  refine ⟨_, _, _, rfl, rfl, rfl, ?_⟩
  obtain ⟨_, joined, _⟩ := buildProject_append links overlapping [Compiler.linkModule]
  obtain ⟨_, sources, _, manifests⟩ :=
    joined (.concurrent [2, 0, 1]) .sequential .sequential _ _ _ rfl rfl rfl
  exact ⟨sources, manifests .resource⟩

end Stanza
