import Mathlib.Data.List.Nodup
import Mathlib.Data.List.Pairwise
import Mathlib.Data.Prod.Basic
import Stanza.Proofs.Project.Schedules

set_option autoImplicit false

/-!
Refused projects. Rejecting collisions refuses a project exactly when two of its modules
declare one address for a registered type, and names the first repeat on the way through the
resources and then the data sources. Any other project is built as if the last one won.
-/

namespace Stanza

/-- Modules at two positions of a list declare one address for a registered type. -/
def SharedAddress (registry : Registry) (modules : List Module) (kind : EntityKind)
    (type address : String) (i j : Nat) : Prop :=
  i < j ∧ registry.contains kind type = true ∧
    ∃ left right leftValue rightValue, modules[i]? = some left ∧ modules[j]? = some right ∧
      left.Declares kind type address leftValue ∧ right.Declares kind type address rightValue

/-- All declarations of registered types on the way: resources, then data sources. -/
def traversal (registry : Registry) (modules : List Module) : List Occurrence :=
  occurrences registry modules .resource ++ occurrences registry modules .dataSource

/-! ### The occurrences of one module -/

section Occurrences

variable (registry : Registry) (kind : EntityKind)

theorem mem_module_occurrences {module : Module} {position : Nat} {occurrence : Occurrence} :
    occurrence ∈ module.occurrences registry kind position ↔
      occurrence.position = position ∧ occurrence.module = module ∧ occurrence.kind = kind ∧
        registry.contains kind occurrence.type = true ∧
        ∃ value, module.Declares kind occurrence.type occurrence.address value := by
  unfold Module.occurrences Module.registered
  simp only [List.mem_flatMap, List.mem_filter, List.mem_map]
  constructor
  · rintro ⟨⟨type, group⟩, ⟨declared, known⟩, ⟨address, value⟩, member, rfl⟩
    exact ⟨rfl, rfl, rfl, known, value,
      (Module.declares_iff module kind).mpr ⟨group, declared, member⟩⟩
  · rintro ⟨samePosition, sameModule, sameKind, known, value, declares⟩
    obtain ⟨group, declared, member⟩ := (Module.declares_iff module kind).mp declares
    obtain ⟨position, module, kind, type, address⟩ := occurrence
    cases samePosition
    cases sameModule
    cases sameKind
    exact ⟨(type, group), ⟨declared, known⟩, (address, value), member, rfl⟩

theorem nodup_module_occurrences (module : Module) (position : Nat) :
    ((module.occurrences registry kind position).map Occurrence.key).Nodup := by
  have types : ((module.registered registry kind).map Prod.fst).Nodup :=
    (Module.nodup_declared_types module kind).sublist (List.filter_sublist.map Prod.fst)
  have addresses : ∀ group ∈ module.registered registry kind, (group.2.map Prod.fst).Nodup := by
    intro group member
    obtain ⟨entry, _, rfl⟩ := List.mem_map.mp (List.mem_filter.mp member).1
    exact Module.nodup_addressed module entry
  have pairs := (Table.nodup_pairs types addresses).map (Prod.mk_right_injective kind)
  unfold Module.occurrences
  rw [List.map_flatMap] at pairs ⊢
  simp only [List.map_map] at pairs ⊢
  exact pairs

/-! ### All occurrences of a kind -/

variable (modules : List Module)

theorem mem_occurrences {occurrence : Occurrence} :
    occurrence ∈ occurrences registry modules kind ↔
      modules[occurrence.position]? = some occurrence.module ∧ occurrence.kind = kind ∧
        registry.contains kind occurrence.type = true ∧
        ∃ value, occurrence.module.Declares kind occurrence.type occurrence.address value := by
  unfold occurrences
  simp only [List.mem_flatMap, mem_module_occurrences]
  constructor
  · rintro ⟨⟨module, position⟩, placed, samePosition, sameModule, rest⟩
    cases samePosition
    cases sameModule
    exact ⟨List.mem_zipIdx_iff_getElem?.mp placed, rest⟩
  · rintro ⟨placed, rest⟩
    exact ⟨(occurrence.module, occurrence.position), List.mem_zipIdx_iff_getElem?.mpr placed,
      rfl, rfl, rest⟩

/-- The positions do not go down, and within one module no key comes twice. -/
theorem pairwise_occurrences :
    (occurrences registry modules kind).Pairwise fun left right =>
      left.position ≤ right.position ∧
        (left.position = right.position → left.key ≠ right.key) := by
  unfold occurrences
  rw [List.pairwise_flatMap]
  constructor
  · intro placed _
    have distinct := List.pairwise_map.mp
      (nodup_module_occurrences registry kind placed.1 placed.2)
    apply distinct.imp_of_mem
    intro left right inLeft inRight apart
    have leftAt := ((mem_module_occurrences registry kind).mp inLeft).1
    have rightAt := ((mem_module_occurrences registry kind).mp inRight).1
    exact ⟨Nat.le_of_eq (leftAt.trans rightAt.symm), fun _ => apart⟩
  · rw [List.pairwise_iff_getElem]
    intro i j iBound jBound before left inLeft right inRight
    have leftAt := ((mem_module_occurrences registry kind).mp inLeft).1
    have rightAt := ((mem_module_occurrences registry kind).mp inRight).1
    rw [List.getElem_zipIdx] at leftAt rightAt
    simp only at leftAt rightAt
    exact ⟨by omega, fun same => by omega⟩

/-- The keys are distinct unless modules at two positions share an address. -/
theorem nodup_occurrences_iff :
    ((occurrences registry modules kind).map Occurrence.key).Nodup ↔
      ¬ ∃ type address i j, SharedAddress registry modules kind type address i j := by
  have parts : ((occurrences registry modules kind).map Occurrence.key).Nodup ↔
      ∀ left ∈ occurrences registry modules kind, ∀ right ∈ occurrences registry modules kind,
        left.position < right.position → left.key ≠ right.key := by
    constructor
    · intro distinct left inLeft right inRight before same
      have equal := List.inj_on_of_nodup_map distinct inLeft inRight same
      rw [equal] at before
      exact Nat.lt_irrefl _ before
    · intro apart
      apply List.pairwise_map.mpr
      apply (pairwise_occurrences registry kind modules).imp_of_mem
      intro left right inLeft inRight ordered
      rcases Nat.lt_or_eq_of_le ordered.1 with before | together
      · exact apart left inLeft right inRight before
      · exact ordered.2 together
  rw [parts]
  constructor
  · rintro apart ⟨type, address, i, j, before, known, left, right, leftValue, rightValue, leftAt,
      rightAt, leftDeclares, rightDeclares⟩
    exact apart ⟨i, left, kind, type, address⟩
      ((mem_occurrences registry kind modules).mpr ⟨leftAt, rfl, known, leftValue, leftDeclares⟩)
      ⟨j, right, kind, type, address⟩
      ((mem_occurrences registry kind modules).mpr
        ⟨rightAt, rfl, known, rightValue, rightDeclares⟩) before rfl
  · intro apart left inLeft right inRight before same
    obtain ⟨leftAt, _, known, leftValue, leftDeclares⟩ :=
      (mem_occurrences registry kind modules).mp inLeft
    obtain ⟨rightAt, _, _, rightValue, rightDeclares⟩ :=
      (mem_occurrences registry kind modules).mp inRight
    obtain ⟨_, sameType, sameAddress⟩ : left.kind = right.kind ∧ left.type = right.type ∧
        left.address = right.address := by
      simpa [Occurrence.key] using same
    rw [← sameType, ← sameAddress] at rightDeclares
    exact apart ⟨left.type, left.address, left.position, right.position, before, known,
      left.module, right.module, leftValue, rightValue, leftAt, rightAt, leftDeclares,
      rightDeclares⟩

/-! ### The first repeat -/

variable {registry kind modules}

theorem FirstRepeat.members {earlier again : Occurrence} {run : List Occurrence}
    (repeated : FirstRepeat run earlier again) : earlier ∈ run ∧ again ∈ run := by
  obtain ⟨before, after, rfl, _, member, _⟩ := repeated
  exact ⟨List.mem_append_left _ member, by simp⟩

theorem FirstRepeat.position_lt {earlier again : Occurrence}
    (repeated : FirstRepeat (occurrences registry modules kind) earlier again) :
    earlier.position < again.position := by
  obtain ⟨before, after, split, _, member, same⟩ := repeated
  have ordered := pairwise_occurrences registry kind modules
  rw [split, List.pairwise_append] at ordered
  obtain ⟨notAbove, apart⟩ := ordered.2.2 earlier member again List.mem_cons_self
  rcases Nat.lt_or_eq_of_le notAbove with below | together
  · exact below
  · exact absurd same (apart together)

/-- Only one earlier module declares the address that is repeated first. -/
theorem FirstRepeat.position_unique {earlier again other : Occurrence}
    (repeated : FirstRepeat (occurrences registry modules kind) earlier again)
    (member : other ∈ occurrences registry modules kind) (sameKey : other.key = again.key)
    (below : other.position < again.position) : other = earlier := by
  obtain ⟨before, after, split, distinct, inBefore, same⟩ := repeated
  have ordered := pairwise_occurrences registry kind modules
  rw [split, List.pairwise_append, List.pairwise_cons] at ordered
  rw [split] at member
  rcases List.mem_append.mp member with early | late
  · exact List.inj_on_of_nodup_map distinct early inBefore (sameKey.trans same.symm)
  · exfalso
    rcases List.mem_cons.mp late with atAgain | afterwards
    · rw [atAgain] at below
      exact Nat.lt_irrefl _ below
    · have notBelow := (ordered.2.1.1 other afterwards).1
      omega

theorem FirstRepeat.append_left {front run : List Occurrence} {earlier again : Occurrence}
    (repeated : FirstRepeat run earlier again) (distinct : (front.map Occurrence.key).Nodup)
    (apart : ∀ left ∈ front, ∀ right ∈ run, left.key ≠ right.key) :
    FirstRepeat (front ++ run) earlier again := by
  obtain ⟨before, after, rfl, distinctBefore, member, same⟩ := repeated
  refine ⟨front ++ before, after, by simp, ?_, List.mem_append_right _ member, same⟩
  rw [List.map_append, List.nodup_append]
  refine ⟨distinct, distinctBefore, ?_⟩
  intro left inLeft right inRight
  obtain ⟨first, firstMember, rfl⟩ := List.mem_map.mp inLeft
  obtain ⟨second, secondMember, rfl⟩ := List.mem_map.mp inRight
  exact apart first firstMember second (List.mem_append_left _ secondMember)

end Occurrences

/-! ### Building with and without collisions -/

variable {registry : Registry} {modules : List Module} {kind : EntityKind}

theorem succeeds_buildManifest_reject_iff :
    Succeeds (buildManifest .reject registry modules kind) ↔
      ((occurrences registry modules kind).map Occurrence.key).Nodup := by
  cases built : buildManifest .reject registry modules kind with
  | error error =>
      obtain ⟨_, earlier, again, repeated, _⟩ := buildManifest_eq_error built
      simp [repeated.not_nodup]
  | ok manifest =>
      have reported := reports_reject registry modules kind
      obtain ⟨claims, accepted, _⟩ := bind_eq_ok_iff.mp built
      rw [accepted] at reported
      simp [reported.distinct]

theorem buildManifest_refuses_iff :
    (∃ reported type address first second, buildManifest .reject registry modules kind =
        .error (.nameCollision reported type address first second)) ↔
      ∃ type address i j, SharedAddress registry modules kind type address i j := by
  rw [← not_iff_not, ← nodup_occurrences_iff, ← succeeds_buildManifest_reject_iff]
  cases built : buildManifest .reject registry modules kind with
  | ok manifest => simp
  | error error =>
      obtain ⟨_, earlier, again, _, rfl⟩ := buildManifest_eq_error built
      simp

theorem firstRepeat_of_collision {type address first second : String} {reported : EntityKind}
    (refused : buildManifest .reject registry modules kind =
      .error (.nameCollision reported type address first second)) :
    ∃ earlier again, FirstRepeat (occurrences registry modules kind) earlier again ∧
      again.key = (reported, type, address) ∧ first = earlier.module.label ∧
      second = again.module.label := by
  obtain ⟨_, earlier, again, repeated, named⟩ := buildManifest_eq_error refused
  cases named
  exact ⟨earlier, again, repeated, rfl, rfl, rfl⟩

/-- What is known of the occurrence that a collision names first. -/
theorem FirstRepeat.only_earlier {earlier again : Occurrence}
    (repeated : FirstRepeat (occurrences registry modules kind) earlier again) :
    earlier.position < again.position ∧ modules[earlier.position]? = some earlier.module ∧
      modules[again.position]? = some again.module ∧
      ∀ position module value, position < again.position → modules[position]? = some module →
        module.Declares again.kind again.type again.address value →
          position = earlier.position := by
  obtain ⟨inEarlier, inAgain⟩ := repeated.members
  obtain ⟨againAt, sameKind, known, _⟩ := (mem_occurrences registry kind modules).mp inAgain
  refine ⟨repeated.position_lt, ((mem_occurrences registry kind modules).mp inEarlier).1, againAt,
    ?_⟩
  intro position module value below here declares
  rw [sameKind] at declares
  have member : ⟨position, module, kind, again.type, again.address⟩ ∈
      occurrences registry modules kind :=
    (mem_occurrences registry kind modules).mpr ⟨here, rfl, known, value, declares⟩
  have only := repeated.position_unique member (by rw [Occurrence.key, ← sameKind]; rfl) below
  exact congrArg Occurrence.position only

/-- The way through a project comes to its data sources when its resources do not collide. -/
theorem FirstRepeat.traversal {earlier again : Occurrence}
    (repeated : FirstRepeat (occurrences registry modules kind) earlier again)
    (resourcesPass : kind = .dataSource →
      Succeeds (buildManifest .reject registry modules .resource)) :
    FirstRepeat (traversal registry modules) earlier again := by
  cases kind with
  | resource => exact repeated.append _
  | dataSource =>
      have distinct := succeeds_buildManifest_reject_iff.mp (resourcesPass rfl)
      apply repeated.append_left distinct
      intro left inLeft right inRight same
      have leftKind := ((mem_occurrences _ _ _).mp inLeft).2.1
      have rightKind := ((mem_occurrences _ _ _).mp inRight).2.1
      have sameKind : left.kind = right.kind := congrArg Prod.fst same
      rw [leftKind, rightKind] at sameKind
      cases sameKind

theorem exists_collision_iff {schedule : Schedule} {compiler : Compiler} :
    (∃ kind type address first second, buildProject .reject schedule compiler modules =
        .error (.nameCollision kind type address first second)) ↔
      ∃ kind type address i j,
        SharedAddress compiler.registry modules kind type address i j := by
  constructor
  · rintro ⟨_, _, _, _, _, refused⟩
    rcases buildProject_eq_collision_iff.mp refused with atResources | ⟨_, atSources⟩
    · exact ⟨.resource, buildManifest_refuses_iff.mp ⟨_, _, _, _, _, atResources⟩⟩
    · exact ⟨.dataSource, buildManifest_refuses_iff.mp ⟨_, _, _, _, _, atSources⟩⟩
  · rintro ⟨kind, shared⟩
    obtain ⟨reported, type, address, first, second, refused⟩ :=
      buildManifest_refuses_iff.mpr shared
    -- the resources come first, so they may collide before the kind that is known to
    cases resources : buildManifest .reject compiler.registry modules .resource with
    | error error =>
        obtain ⟨_, earlier, again, _, rfl⟩ := buildManifest_eq_error resources
        exact ⟨_, _, _, _, _, buildProject_eq_collision_iff.mpr (Or.inl resources)⟩
    | ok manifest =>
        cases kind with
        | resource =>
            rw [resources] at refused
            cases refused
        | dataSource =>
            exact ⟨reported, type, address, first, second,
              buildProject_eq_collision_iff.mpr (Or.inr ⟨⟨manifest, resources⟩, refused⟩)⟩

theorem buildProject_reject_eq_lastWins {schedule : Schedule} {compiler : Compiler}
    (resources : Succeeds (buildManifest .reject compiler.registry modules .resource))
    (dataSources : Succeeds (buildManifest .reject compiler.registry modules .dataSource)) :
    buildProject .reject schedule compiler modules =
      buildProject .lastWins schedule compiler modules := by
  obtain ⟨resources, resourcesBuilt⟩ := resources
  obtain ⟨dataSources, sourcesBuilt⟩ := dataSources
  unfold buildProject
  rw [resourcesBuilt, sourcesBuilt, buildManifest_lastWins, buildManifest_lastWins,
    ← buildManifest_eq_ok resourcesBuilt, ← buildManifest_eq_ok sourcesBuilt]

/--
Rejecting collisions refuses a project exactly when modules at two positions share an
address, whatever else may be wrong with it. The collision is the first repeat on the way
through resources and data sources; it names the module of the repeat second, and first the
only earlier module with that address. Without one the project is built as if the last won.
-/
theorem reject_refuses_iff_sharedAddress (schedule : Schedule) (compiler : Compiler)
    (modules : List Module) :
    ((∃ kind type address first second, buildProject .reject schedule compiler modules =
        .error (.nameCollision kind type address first second)) ↔
      ∃ kind type address i j,
        SharedAddress compiler.registry modules kind type address i j) ∧
    (∀ kind type address first second,
      buildProject .reject schedule compiler modules =
        .error (.nameCollision kind type address first second) →
      ∃ earlier again, FirstRepeat (traversal compiler.registry modules) earlier again ∧
        again.key = (kind, type, address) ∧
        first = earlier.module.label ∧ second = again.module.label ∧
        earlier.position < again.position ∧
        modules[earlier.position]? = some earlier.module ∧
        modules[again.position]? = some again.module ∧
        ∀ position module value, position < again.position →
          modules[position]? = some module → module.Declares kind type address value →
            position = earlier.position) ∧
    ((¬ ∃ kind type address i j,
        SharedAddress compiler.registry modules kind type address i j) →
      buildProject .reject schedule compiler modules =
        buildProject .lastWins schedule compiler modules) := by
  refine ⟨exists_collision_iff, ?_, ?_⟩
  · intro kind type address first second refused
    have atKind : ∃ reported, (buildManifest .reject compiler.registry modules reported =
        .error (.nameCollision kind type address first second)) ∧
          (reported = .dataSource →
            Succeeds (buildManifest .reject compiler.registry modules .resource)) := by
      rcases buildProject_eq_collision_iff.mp refused with atResources | ⟨built, atSources⟩
      · exact ⟨.resource, atResources, by simp⟩
      · exact ⟨.dataSource, atSources, fun _ => built⟩
    obtain ⟨reported, refusedThere, resourcesPass⟩ := atKind
    obtain ⟨earlier, again, repeated, sameKey, isFirst, isSecond⟩ :=
      firstRepeat_of_collision refusedThere
    obtain ⟨below, earlierAt, againAt, only⟩ := repeated.only_earlier
    cases sameKey
    exact ⟨earlier, again, repeated.traversal resourcesPass, rfl, isFirst, isSecond, below,
      earlierAt, againAt, only⟩
  · intro none
    have built (kind : EntityKind) :
        Succeeds (buildManifest .reject compiler.registry modules kind) := by
      rw [succeeds_buildManifest_reject_iff, nodup_occurrences_iff]
      rintro ⟨type, address, i, j, collision⟩
      exact none ⟨kind, type, address, i, j, collision⟩
    exact buildProject_reject_eq_lastWins (built .resource) (built .dataSource)

/-- Two modules whose stems and names part one address differently, and one that fails. -/
def unlikeStems : List Module :=
  [({ name := some "left", stem := "ab" } : Module).withResource "zone" "c" (.object []),
    ({ name := some "middle" } : Module).withResource "gadget" "a" (.object []),
    ({ name := some "right", stem := "a" } : Module).withResource "zone" "bc" (.object [])]

def zoneCompiler : Compiler :=
  ⟨⟨(∅ : Table RegisteredType).insert "zone" ⟨"acme", .record {} []⟩, ∅⟩, {}⟩

theorem unlikeStems_share_address :
    SharedAddress zoneCompiler.registry unlikeStems .resource "zone" "abc" 0 2 ∧
      ∃ kind type address first second, buildProject .reject .sequential zoneCompiler unlikeStems =
        .error (.nameCollision kind type address first second) := by
  have shared : SharedAddress zoneCompiler.registry unlikeStems .resource "zone" "abc" 0 2 :=
    ⟨by decide, by decide, _, _, .object [], .object [], rfl, rfl,
      ⟨_, "c", rfl, rfl, rfl⟩, ⟨_, "bc", rfl, rfl, rfl⟩⟩
  have refused := (reject_refuses_iff_sharedAddress .sequential zoneCompiler unlikeStems).1.mpr
    ⟨_, _, _, _, _, shared⟩
  exact ⟨shared, refused⟩

end Stanza
