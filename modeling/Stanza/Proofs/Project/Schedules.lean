import Mathlib.Data.List.Perm.Basic
import Stanza.Proofs.Project.Claims

set_option autoImplicit false

/-!
Schedules of a project. What comes out of a project does not depend on the order in which
its modules complete, and neither do refused addresses. Which error a failing project gives
does: modules compiled at the same time give the error of the first failing one to complete,
modules compiled in turn that of the first failing one in their order.
-/

namespace Stanza

/-! ### Collecting results -/

theorem failure?_eq_some_iff {ε α : Type} {outcome : Except ε α} {error : ε} :
    failure? outcome = some error ↔ outcome = .error error := by
  cases outcome <;> simp [failure?]

theorem failure?_eq_none_iff {ε α : Type} {outcome : Except ε α} :
    failure? outcome = none ↔ Succeeds outcome := by
  cases outcome <;> simp [failure?]

theorem collectInOrder_eq_error_iff {results : List (Except CompileError ModuleText)}
    {error : CompileError} :
    collectInOrder results = .error error ↔ results.findSome? failure? = some error := by
  induction results with
  | nil => simp [collectInOrder, pure, Except.pure]
  | cons result rest ih =>
      cases result with
      | error first => simp [collectInOrder, bind, Except.bind, failure?, List.findSome?_cons]
      | ok text =>
          have passed : (Except.ok text :: rest).findSome? failure? = rest.findSome? failure? :=
            rfl
          rw [passed, ← ih]
          unfold collectInOrder
          rw [List.mapM_cons]
          cases rest.mapM id <;> simp [bind, Except.bind, pure, Except.pure]

theorem collectInOrder_eq_ok_iff {results : List (Except CompileError ModuleText)}
    {texts : List ModuleText} :
    collectInOrder results = .ok texts ↔
      List.Forall₂ (fun result text => result = .ok text) results texts :=
  mapM_eq_ok_iff id results texts

/-- A failure that is seen in any order is a failure of the collection in order. -/
theorem collectAsCompleted_eq_ok_iff {completion : List Nat}
    {results : List (Except CompileError ModuleText)} {texts : List ModuleText} :
    collectAsCompleted completion results = .ok texts ↔ collectInOrder results = .ok texts := by
  unfold collectAsCompleted
  cases seen : completion.findSome? fun position => results[position]?.bind failure? with
  | none => exact Iff.rfl
  | some error =>
      simp only [reduceCtorEq, false_iff]
      intro collected
      obtain ⟨position, _, found⟩ := List.exists_of_findSome?_eq_some seen
      obtain ⟨result, here, failed⟩ := Option.bind_eq_some_iff.mp found
      obtain ⟨text, _, succeeded⟩ := exists_right_of_mem (collectInOrder_eq_ok_iff.mp collected)
        (List.mem_of_getElem? here)
      rw [succeeded] at failed
      cases failed

theorem findSome?_positions {α β : Type} (items : List α) (find : α → Option β) :
    (List.range items.length).findSome? (fun position => items[position]?.bind find) =
      items.findSome? find := by
  induction items with
  | nil => rfl
  | cons item rest ih =>
      rw [List.length_cons, List.range_succ_eq_map, List.findSome?_cons, List.findSome?_map,
        List.findSome?_cons]
      cases first : find item with
      | some result => simp [first]
      | none =>
          rw [← ih]
          simp [first, Function.comp_def]

section Compilation

variable (compiler : Compiler) (modules : List Module)

theorem compileModules_eq_ok_iff (schedule : Schedule) {texts : List ModuleText} :
    compileModules schedule compiler modules = .ok texts ↔
      List.Forall₂ (fun module text => compiler.compile module = .ok text) modules texts := by
  have inOrder : collectInOrder (modules.map compiler.compile) = .ok texts ↔
      List.Forall₂ (fun module text => compiler.compile module = .ok text) modules texts := by
    rw [collectInOrder_eq_ok_iff, List.forall₂_map_left_iff]
  cases schedule with
  | sequential => exact inOrder
  | concurrent completion => exact collectAsCompleted_eq_ok_iff.trans inOrder

/-- The first position of an order whose module fails, and the error of that module. -/
def FirstFailure (order : List Nat) (error : CompileError) : Prop :=
  ∃ before position after module, order = before ++ position :: after ∧
    modules[position]? = some module ∧ compiler.compile module = .error error ∧
      ∀ earlier ∈ before, ∀ other, modules[earlier]? = some other →
        Succeeds (compiler.compile other)

theorem firstFailure_iff {order : List Nat} {error : CompileError} :
    FirstFailure compiler modules order error ↔
      (order.findSome? fun position =>
        (modules.map compiler.compile)[position]?.bind failure?) = some error := by
  have failed (position : Nat) :
      (modules.map compiler.compile)[position]?.bind failure? = some error ↔
        ∃ module, modules[position]? = some module ∧ compiler.compile module = .error error := by
    rw [List.getElem?_map, Option.bind_eq_some_iff]
    cases modules[position]? <;> simp [failure?_eq_some_iff]
  have passed (position : Nat) :
      (modules.map compiler.compile)[position]?.bind failure? = none ↔
        ∀ other, modules[position]? = some other → Succeeds (compiler.compile other) := by
    rw [List.getElem?_map]
    cases modules[position]? <;> simp [failure?_eq_none_iff]
  rw [List.findSome?_eq_some_iff]
  constructor
  · rintro ⟨before, position, after, module, split, here, error, earlier⟩
    exact ⟨before, position, after, split, (failed position).mpr ⟨module, here, error⟩,
      fun other member => (passed other).mpr (earlier other member)⟩
  · rintro ⟨before, position, after, split, found, earlier⟩
    obtain ⟨module, here, error⟩ := (failed position).mp found
    exact ⟨before, position, after, module, split, here, error,
      fun other member => (passed other).mp (earlier other member)⟩

theorem compileModules_sequential_eq_error_iff {error : CompileError} :
    compileModules .sequential compiler modules = .error error ↔
      FirstFailure compiler modules (List.range modules.length) error := by
  have inOrder := findSome?_positions (modules.map compiler.compile) failure?
  rw [List.length_map] at inOrder
  rw [firstFailure_iff, inOrder]
  exact collectInOrder_eq_error_iff

theorem compileModules_concurrent_eq_error_iff {completion : List Nat} {error : CompileError}
    (complete : completion.Perm (List.range modules.length)) :
    compileModules (.concurrent completion) compiler modules = .error error ↔
      FirstFailure compiler modules completion error := by
  rw [firstFailure_iff]
  change collectAsCompleted completion (modules.map compiler.compile) = _ ↔ _
  unfold collectAsCompleted
  cases seen : completion.findSome? fun position =>
      (modules.map compiler.compile)[position]?.bind failure? with
  | some first => simp
  | none =>
      -- every position completes, so nothing fails in the order of the modules either
      have inOrder := findSome?_positions (modules.map compiler.compile) failure?
      rw [List.length_map] at inOrder
      have nothing : (modules.map compiler.compile).findSome? failure? = none := by
        rw [← inOrder, List.findSome?_eq_none_iff]
        intro position member
        exact List.findSome?_eq_none_iff.mp seen position (complete.mem_iff.mpr member)
      simp only [reduceCtorEq, iff_false]
      intro failed
      rw [collectInOrder_eq_error_iff, nothing] at failed
      cases failed

end Compilation

/-! ### Whole projects -/

section Projects

variable {policy : CollisionPolicy} {schedule : Schedule} {compiler : Compiler}
  {modules : List Module}

theorem buildProject_eq_ok_iff {output : ProjectOutput} :
    buildProject policy schedule compiler modules = .ok output ↔
      ∃ texts, buildManifest policy compiler.registry modules .resource =
          .ok output.resourcesManifest ∧
        buildManifest policy compiler.registry modules .dataSource =
          .ok output.dataSourcesManifest ∧
        compileModules schedule compiler modules = .ok texts ∧
        output.resourcesText = Text.joinStanzas (texts.map ModuleText.resources) ∧
        output.dataSourcesText = Text.joinStanzas (texts.map ModuleText.dataSources) := by
  unfold buildProject
  cases buildManifest policy compiler.registry modules .resource with
  | error error => simp [bind, Except.bind]
  | ok resources =>
      cases buildManifest policy compiler.registry modules .dataSource with
      | error error => simp [bind, Except.bind]
      | ok dataSources =>
          cases compileModules schedule compiler modules with
          | error error => simp [bind, Except.bind]
          | ok texts =>
              obtain ⟨resourcesText, dataSourcesText, resourcesManifest, dataSourcesManifest⟩ :=
                output
              simp only [bind, Except.bind, pure, Except.pure, Except.ok.injEq,
                ProjectOutput.mk.injEq]
              constructor
              · rintro ⟨rfl, rfl, rfl, rfl⟩
                exact ⟨texts, rfl, rfl, rfl, rfl, rfl⟩
              · rintro ⟨_, rfl, rfl, rfl, rfl, rfl⟩
                exact ⟨rfl, rfl, rfl, rfl⟩

/-- A compile error is reported once both manifests are built. -/
theorem buildProject_eq_compileError_iff {error : CompileError} :
    buildProject policy schedule compiler modules = .error (.compile error) ↔
      Succeeds (buildManifest policy compiler.registry modules .resource) ∧
        Succeeds (buildManifest policy compiler.registry modules .dataSource) ∧
        compileModules schedule compiler modules = .error error := by
  unfold buildProject
  cases resources : buildManifest policy compiler.registry modules .resource with
  | error collision =>
      obtain ⟨_, earlier, again, _, rfl⟩ := buildManifest_eq_error resources
      simp [bind, Except.bind]
  | ok resources =>
      cases dataSources : buildManifest policy compiler.registry modules .dataSource with
      | error collision =>
          obtain ⟨_, earlier, again, _, rfl⟩ := buildManifest_eq_error dataSources
          simp [bind, Except.bind]
      | ok dataSources =>
          cases compileModules schedule compiler modules <;>
            simp [bind, Except.bind, pure, Except.pure]

/-- Addresses are refused before anything is compiled. -/
theorem buildProject_eq_collision_iff {kind : EntityKind} {type address first second : String} :
    buildProject policy schedule compiler modules =
        .error (.nameCollision kind type address first second) ↔
      buildManifest policy compiler.registry modules .resource =
          .error (.nameCollision kind type address first second) ∨
        Succeeds (buildManifest policy compiler.registry modules .resource) ∧
          buildManifest policy compiler.registry modules .dataSource =
            .error (.nameCollision kind type address first second) := by
  unfold buildProject
  cases buildManifest policy compiler.registry modules .resource with
  | error collision => simp [bind, Except.bind]
  | ok resources =>
      cases buildManifest policy compiler.registry modules .dataSource with
      | error collision => simp [bind, Except.bind]
      | ok dataSources =>
          cases compileModules schedule compiler modules <;>
            simp [bind, Except.bind, pure, Except.pure]

/-! ### Completion orders -/

theorem concurrent_eq_ok_iff_sequential (policy : CollisionPolicy) (compiler : Compiler)
    (modules : List Module) (completion : List Nat) (output : ProjectOutput) :
    buildProject policy (.concurrent completion) compiler modules = .ok output ↔
      buildProject policy .sequential compiler modules = .ok output := by
  simp only [buildProject_eq_ok_iff, compileModules_eq_ok_iff]

theorem concurrent_eq_collision_iff_sequential (policy : CollisionPolicy) (compiler : Compiler)
    (modules : List Module) (completion : List Nat) (kind : EntityKind)
    (type address first second : String) :
    buildProject policy (.concurrent completion) compiler modules =
        .error (.nameCollision kind type address first second) ↔
      buildProject policy .sequential compiler modules =
        .error (.nameCollision kind type address first second) := by
  rw [buildProject_eq_collision_iff, buildProject_eq_collision_iff]

theorem concurrent_eq_compileError_iff (policy : CollisionPolicy) (compiler : Compiler)
    {modules : List Module} {completion : List Nat}
    (complete : completion.Perm (List.range modules.length)) (error : CompileError) :
    buildProject policy (.concurrent completion) compiler modules = .error (.compile error) ↔
      (∃ inTurn, buildProject policy .sequential compiler modules = .error (.compile inTurn)) ∧
        FirstFailure compiler modules completion error := by
  simp only [buildProject_eq_compileError_iff]
  rw [compileModules_concurrent_eq_error_iff compiler modules complete]
  constructor
  · rintro ⟨resources, dataSources, failed⟩
    cases inTurn : compileModules .sequential compiler modules with
    | error first => exact ⟨⟨first, resources, dataSources, rfl⟩, failed⟩
    | ok texts =>
        have compiled := (compileModules_eq_ok_iff compiler modules (.concurrent completion)).mpr
          ((compileModules_eq_ok_iff compiler modules .sequential).mp inTurn)
        rw [(compileModules_concurrent_eq_error_iff compiler modules complete).mpr failed]
          at compiled
        cases compiled
  · rintro ⟨⟨_, resources, dataSources, _⟩, failed⟩
    exact ⟨resources, dataSources, failed⟩

/--
Modules that are compiled at the same time give the project that they give in turn, whatever
the order in which they complete, and the same collision of addresses. When several modules
fail, the error is that of the first failing one to complete, in turn that of the first
failing one in the list; the two results differ exactly when these errors do.
-/
theorem concurrent_differs_in_first_failure (policy : CollisionPolicy) (compiler : Compiler)
    (modules : List Module) (completion : List Nat)
    (complete : completion.Perm (List.range modules.length)) :
    (∀ output,
      buildProject policy (.concurrent completion) compiler modules = .ok output ↔
        buildProject policy .sequential compiler modules = .ok output) ∧
    (∀ kind type address first second,
      buildProject policy (.concurrent completion) compiler modules =
          .error (.nameCollision kind type address first second) ↔
        buildProject policy .sequential compiler modules =
          .error (.nameCollision kind type address first second)) ∧
    (∀ error,
      buildProject policy (.concurrent completion) compiler modules = .error (.compile error) ↔
        (∃ inTurn, buildProject policy .sequential compiler modules = .error (.compile inTurn)) ∧
          FirstFailure compiler modules completion error) ∧
    (∀ error,
      buildProject policy .sequential compiler modules = .error (.compile error) →
        FirstFailure compiler modules (List.range modules.length) error) ∧
    (buildProject policy (.concurrent completion) compiler modules =
        buildProject policy .sequential compiler modules ↔
      ∀ error, buildProject policy .sequential compiler modules = .error (.compile error) →
        FirstFailure compiler modules completion error) := by
  have outputs := concurrent_eq_ok_iff_sequential policy compiler modules completion
  have collisions := concurrent_eq_collision_iff_sequential policy compiler modules completion
  have failures := concurrent_eq_compileError_iff policy compiler complete
  refine ⟨outputs, collisions, failures, ?_, ?_⟩
  · intro error failed
    exact (compileModules_sequential_eq_error_iff compiler modules).mp
      (buildProject_eq_compileError_iff.mp failed).2.2
  · constructor
    · intro same error failed
      exact ((failures error).mp (same.trans failed)).2
    · intro agree
      cases inTurn : buildProject policy .sequential compiler modules with
      | ok output => exact (outputs output).mpr inTurn
      | error error =>
          cases error with
          | nameCollision kind type address first second =>
              exact (collisions kind type address first second).mpr inTurn
          | compile error => exact (failures error).mpr ⟨⟨error, inTurn⟩, agree error inTurn⟩

end Projects

/-- Two modules that declare instances of types nobody has registered. -/
def strangers : List Module :=
  [({ name := some "left" } : Module).withResource "gadget" "a" (.object []),
    ({ name := some "right" } : Module).withResource "gizmo" "b" (.object [])]

theorem strangers_fail_as_completed :
    [1, 0].Perm (List.range strangers.length) ∧
      FirstFailure ⟨.empty, {}⟩ strangers [1, 0] (.undeclaredType .resource "gizmo" "right") := by
  have complete : [1, 0].Perm (List.range strangers.length) := by decide
  have failed : buildProject .lastWins (.concurrent [1, 0]) ⟨.empty, {}⟩ strangers =
      .error (.compile (.undeclaredType .resource "gizmo" "right")) := rfl
  obtain ⟨_, _, failures, _⟩ :=
    concurrent_differs_in_first_failure .lastWins ⟨.empty, {}⟩ strangers [1, 0] complete
  exact ⟨complete, ((failures _).mp failed).2⟩

/-- The first failing module of the list need not be the one whose error is given. -/
theorem concurrent_error_follows_completion :
    buildProject .lastWins .sequential ⟨.empty, {}⟩ strangers =
        .error (.compile (.undeclaredType .resource "gadget" "left")) ∧
      buildProject .lastWins (.concurrent [1, 0]) ⟨.empty, {}⟩ strangers =
        .error (.compile (.undeclaredType .resource "gizmo" "right")) :=
  ⟨rfl, rfl⟩

end Stanza
