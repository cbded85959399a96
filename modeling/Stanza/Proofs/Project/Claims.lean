import Stanza.Project
import Stanza.Proofs.Outcome
import Stanza.Proofs.Table.Filling

set_option autoImplicit false

/-!
Claimed addresses of a project. Whatever the policy, claims that succeed hold the declared
values of the registered types, filled in module by module. A policy that rejects stops at
the first declaration whose address an earlier module has claimed for the type.
-/

namespace Stanza

namespace Module

/-- The instances of a type under their addresses. -/
def addressed (module : Module) (entry : String × Table Value) :
    String × List (String × Value) :=
  (entry.1, entry.2.entries.map fun named => (module.address named.1, named.2))

def declared (module : Module) (kind : EntityKind) : List (String × List (String × Value)) :=
  (module.declarations kind).entries.map module.addressed

/-- Declared values of the types that are registered. -/
def registered (module : Module) (registry : Registry) (kind : EntityKind) :
    List (String × List (String × Value)) :=
  (module.declared kind).filter fun group => registry.contains kind group.1

/-- The module declares a value of a type whose prefixed name is the address. -/
def Declares (module : Module) (kind : EntityKind) (type address : String) (value : Value) :
    Prop :=
  ∃ instances name, (module.declarations kind).get? type = some instances ∧
    instances.get? name = some value ∧ module.stem ++ name = address

variable (module : Module) (kind : EntityKind)

theorem declares_iff {type address : String} {value : Value} :
    module.Declares kind type address value ↔
      ∃ group, (type, group) ∈ module.declared kind ∧ (address, value) ∈ group := by
  constructor
  · rintro ⟨instances, name, typeFound, nameFound, rfl⟩
    refine ⟨(module.addressed (type, instances)).2, ?_, ?_⟩
    · exact List.mem_map.mpr ⟨(type, instances), Table.get?_eq_some_iff.mp typeFound, rfl⟩
    · exact List.mem_map.mpr ⟨(name, value), Table.get?_eq_some_iff.mp nameFound, rfl⟩
  · rintro ⟨group, typeMember, member⟩
    obtain ⟨⟨_, instances⟩, typeFound, same⟩ := List.mem_map.mp typeMember
    cases same
    obtain ⟨⟨name, _⟩, nameFound, same⟩ := List.mem_map.mp member
    cases same
    exact ⟨instances, name, Table.get?_eq_some_iff.mpr typeFound,
      Table.get?_eq_some_iff.mpr nameFound, rfl⟩

theorem declared_types : (module.declared kind).map Prod.fst = (module.declarations kind).keys := by
  unfold declared Table.keys
  rw [List.map_map]
  rfl

theorem nodup_declared_types : ((module.declared kind).map Prod.fst).Nodup := by
  rw [declared_types]
  exact (module.declarations kind).distinct

/-- Names are distinct within a type, and so are the addresses of one module. -/
theorem nodup_addressed (entry : String × Table Value) :
    ((module.addressed entry).2.map Prod.fst).Nodup := by
  have stemmed : (module.addressed entry).2.map Prod.fst =
      entry.2.keys.map fun name => module.stem ++ name := by
    unfold addressed Table.keys
    rw [List.map_map, List.map_map]
    rfl
  rw [stemmed]
  exact entry.2.distinct.map fun left right same => (String.append_right_inj module.stem).mp same

end Module

/-! ### What is claimed -/

namespace Claims

/-- The claims that a module makes with a group of declared values. -/
def claimedGroup (module : Module) (group : String × List (String × Value)) :
    String × List (String × Claimed) :=
  (group.1, group.2.map fun entry => (entry.1, ⟨entry.2, module.label⟩))

theorem claim_of_free (policy : CollisionPolicy) (kind : EntityKind) (type : String)
    {address : String} (claimed : Claimed) {present : Table Claimed}
    (free : present.get? address = none) :
    claim policy kind type address claimed present = .ok (present.insert address claimed) := by
  unfold claim
  rw [free]

theorem claim_reject_of_taken (kind : EntityKind) (type : String) {address : String}
    (claimed : Claimed) {present : Table Claimed} {earlier : Claimed}
    (taken : present.get? address = some earlier) :
    claim .reject kind type address claimed present =
      .error (.nameCollision kind type address earlier.owner claimed.owner) := by
  unfold claim
  rw [taken]

theorem claim_lastWins (kind : EntityKind) (type address : String) (claimed : Claimed)
    (present : Table Claimed) :
    claim .lastWins kind type address claimed present =
      .ok (present.insert address claimed) := by
  unfold claim
  split
  · contradiction
  · rfl

theorem claim_eq_ok {policy : CollisionPolicy} {kind : EntityKind} {type address : String}
    {claimed : Claimed} {present next : Table Claimed}
    (accepted : claim policy kind type address claimed present = .ok next) :
    next = present.insert address claimed := by
  unfold claim at accepted
  split at accepted
  · cases accepted
  · cases accepted
    rfl

theorem claimInstances_eq_ok {policy : CollisionPolicy} {kind : EntityKind} {module : Module}
    {type : String} {entries : List (String × Value)} {present next : Table Claimed}
    (accepted : claimInstances policy kind module type present entries = .ok next) :
    next = present.insertAll
      (entries.map fun named => (module.address named.1, ⟨named.2, module.label⟩)) := by
  induction entries generalizing present with
  | nil =>
      cases accepted
      rfl
  | cons named rest ih =>
      obtain ⟨between, first, others⟩ := bind_eq_ok_iff.mp accepted
      rw [ih others, claim_eq_ok first]
      rfl

theorem claimTypes_eq_ok {policy : CollisionPolicy} {registry : Registry} {kind : EntityKind}
    {module : Module} {entries : List (String × Table Value)} {claims next : Claims}
    (accepted : claimTypes policy registry kind module claims entries = .ok next) :
    next = claims.insertGroups (((entries.map module.addressed).filter fun group =>
      registry.contains kind group.1).map (claimedGroup module)) := by
  induction entries generalizing claims with
  | nil =>
      cases accepted
      rfl
  | cons entry rest ih =>
      unfold claimTypes at accepted
      rw [List.map_cons]
      by_cases known : registry.contains kind entry.1 = true
      · rw [if_pos known] at accepted
        obtain ⟨instances, first, others⟩ := bind_eq_ok_iff.mp accepted
        have kept : registry.contains kind (module.addressed entry).1 = true := known
        rw [List.filter_cons_of_pos (by exact kept), ih others, claimInstances_eq_ok first,
          List.map_cons, claimedGroup, Module.addressed, List.map_map]
        rfl
      · rw [if_neg known] at accepted
        have dropped : ¬ registry.contains kind (module.addressed entry).1 = true := known
        rw [List.filter_cons_of_neg (by exact dropped)]
        exact ih accepted

theorem claimModules_eq_ok {policy : CollisionPolicy} {registry : Registry} {kind : EntityKind}
    {modules : List Module} {claims next : Claims}
    (accepted : claimModules policy registry kind claims modules = .ok next) :
    next = claims.insertGroups (modules.flatMap fun module =>
      (module.registered registry kind).map (claimedGroup module)) := by
  induction modules generalizing claims with
  | nil =>
      cases accepted
      rfl
  | cons module rest ih =>
      obtain ⟨between, first, others⟩ := bind_eq_ok_iff.mp accepted
      rw [ih others, claimTypes_eq_ok first, List.flatMap_cons, Table.insertGroups_append]
      rfl

theorem manifest_insertGroups (registry : Registry) (kind : EntityKind)
    (modules : List Module) :
    manifest ((∅ : Claims).insertGroups (modules.flatMap fun module =>
      (module.registered registry kind).map (claimedGroup module))) =
      (∅ : Manifest).insertGroups
        (modules.flatMap fun module => module.registered registry kind) := by
  have owner (module : Module) (group : String × List (String × Value)) :
      ((claimedGroup module group).1, (claimedGroup module group).2.map fun entry =>
        (entry.1, entry.2.value)) = group := by
    simp [claimedGroup, Function.comp_def]
  have removed (module : Module) :
      ((module.registered registry kind).map (claimedGroup module)).map
        (fun group => (group.1, group.2.map fun entry => (entry.1, entry.2.value))) =
          module.registered registry kind := by
    rw [List.map_map]
    exact (List.map_congr_left fun group _ => owner module group).trans (List.map_id _)
  unfold manifest
  rw [Table.map_insertGroups, List.map_flatMap]
  simp only [removed]
  rfl

/-! ### The last declaration wins -/

theorem succeeds_claimInstances_lastWins (kind : EntityKind) (module : Module) (type : String)
    (entries : List (String × Value)) (present : Table Claimed) :
    Succeeds (claimInstances .lastWins kind module type present entries) := by
  induction entries generalizing present with
  | nil => exact succeeds_ok present
  | cons named rest ih =>
      exact succeeds_bind_iff.mpr ⟨_, claim_lastWins kind type _ _ present, ih _⟩

theorem succeeds_claimTypes_lastWins (registry : Registry) (kind : EntityKind)
    (module : Module) (entries : List (String × Table Value)) (claims : Claims) :
    Succeeds (claimTypes .lastWins registry kind module claims entries) := by
  induction entries generalizing claims with
  | nil => exact succeeds_ok claims
  | cons entry rest ih =>
      unfold claimTypes
      by_cases known : registry.contains kind entry.1 = true
      · rw [if_pos known]
        obtain ⟨instances, claimed⟩ := succeeds_claimInstances_lastWins kind module entry.1
          entry.2.entries ((claims.get? entry.1).getD ∅)
        exact succeeds_bind_iff.mpr ⟨instances, claimed, ih _⟩
      · rw [if_neg known]
        exact ih claims

theorem succeeds_claimModules_lastWins (registry : Registry) (kind : EntityKind)
    (modules : List Module) (claims : Claims) :
    Succeeds (claimModules .lastWins registry kind claims modules) := by
  induction modules generalizing claims with
  | nil => exact succeeds_ok claims
  | cons module rest ih =>
      obtain ⟨next, claimed⟩ := succeeds_claimTypes_lastWins registry kind module
        (module.declarations kind).entries claims
      exact succeeds_bind_iff.mpr ⟨next, claimed, ih next⟩

end Claims

/-! ### Manifests -/

/-- The manifest of the registered declarations of a project. -/
def declaredManifest (registry : Registry) (modules : List Module) (kind : EntityKind) :
    Manifest :=
  (∅ : Manifest).insertGroups (modules.flatMap fun module => module.registered registry kind)

theorem buildManifest_eq_ok {policy : CollisionPolicy} {registry : Registry}
    {modules : List Module} {kind : EntityKind} {manifest : Manifest}
    (built : buildManifest policy registry modules kind = .ok manifest) :
    manifest = declaredManifest registry modules kind := by
  obtain ⟨claims, accepted, same⟩ := bind_eq_ok_iff.mp built
  cases same
  rw [Claims.claimModules_eq_ok accepted, Claims.manifest_insertGroups]
  rfl

theorem buildManifest_lastWins (registry : Registry) (modules : List Module)
    (kind : EntityKind) :
    buildManifest .lastWins registry modules kind =
      .ok (declaredManifest registry modules kind) := by
  obtain ⟨claims, accepted⟩ := Claims.succeeds_claimModules_lastWins registry kind modules ∅
  have built : buildManifest .lastWins registry modules kind = .ok claims.manifest :=
    bind_eq_ok_iff.mpr ⟨claims, accepted, rfl⟩
  rw [built, ← buildManifest_eq_ok built]

/-! ### Occurrences of addresses -/

/-- One declaration of an address, with the module that makes it and its place. -/
structure Occurrence where
  position : Nat
  module : Module
  kind : EntityKind
  type : String
  address : String

def Occurrence.key (occurrence : Occurrence) : EntityKind × String × String :=
  (occurrence.kind, occurrence.type, occurrence.address)

/-- The declarations of registered types that a module makes, in order. -/
def Module.occurrences (module : Module) (registry : Registry) (kind : EntityKind)
    (position : Nat) : List Occurrence :=
  (module.registered registry kind).flatMap fun group =>
    group.2.map fun entry => ⟨position, module, kind, group.1, entry.1⟩

def occurrences (registry : Registry) (modules : List Module) (kind : EntityKind) :
    List Occurrence :=
  modules.zipIdx.flatMap fun placed => placed.1.occurrences registry kind placed.2

/-- Up to `again` no key occurs twice, and `earlier` already has its key. -/
def FirstRepeat (run : List Occurrence) (earlier again : Occurrence) : Prop :=
  ∃ before after, run = before ++ again :: after ∧ (before.map Occurrence.key).Nodup ∧
    earlier ∈ before ∧ earlier.key = again.key

theorem FirstRepeat.append {run : List Occurrence} {earlier again : Occurrence}
    (repeated : FirstRepeat run earlier again) (more : List Occurrence) :
    FirstRepeat (run ++ more) earlier again := by
  obtain ⟨before, after, rfl, distinct, member, same⟩ := repeated
  exact ⟨before, after ++ more, by simp, distinct, member, same⟩

theorem FirstRepeat.not_nodup {run : List Occurrence} {earlier again : Occurrence}
    (repeated : FirstRepeat run earlier again) : ¬ (run.map Occurrence.key).Nodup := by
  obtain ⟨before, after, rfl, _, member, same⟩ := repeated
  rw [List.map_append, List.map_cons, List.nodup_append]
  rintro ⟨_, _, apart⟩
  exact apart _ (List.mem_map_of_mem member) _ List.mem_cons_self same

namespace Claims

def owner? (claims : Claims) (type address : String) : Option String :=
  ((claims.get? type).bind fun present => present.get? address).map Claimed.owner

/-- The claims are those of a run of occurrences in which no key occurs twice. -/
structure Recorded (kind : EntityKind) (claims : Claims) (run : List Occurrence) : Prop where
  distinct : (run.map Occurrence.key).Nodup
  sameKind : ∀ occurrence ∈ run, occurrence.kind = kind
  owned : ∀ type address owner, owner? claims type address = some owner ↔
    ∃ occurrence ∈ run, occurrence.type = type ∧ occurrence.address = address ∧
      occurrence.module.label = owner

/-- The claims record the run, or the error names the first repeat in it. -/
def Reports (kind : EntityKind) (run : List Occurrence) : Except ProjectError Claims → Prop
  | .ok claims => Recorded kind claims run
  | .error error => ∃ earlier again, FirstRepeat run earlier again ∧
      error = .nameCollision again.kind again.type again.address earlier.module.label
        again.module.label

variable {kind : EntityKind} {run : List Occurrence}

theorem Reports.bind {α : Type} {first : Except ProjectError α} {claimsOf : α → Claims}
    {next : α → Except ProjectError Claims} {more : List Occurrence}
    (reported : Reports kind run (first.map claimsOf))
    (continued : ∀ result, Recorded kind (claimsOf result) run →
      Reports kind (run ++ more) (next result)) :
    Reports kind (run ++ more) (first >>= next) := by
  cases first with
  | ok result => exact continued result reported
  | error error =>
      obtain ⟨earlier, again, repeated, named⟩ := reported
      exact ⟨earlier, again, repeated.append more, named⟩

theorem owner?_insert (claims : Claims) (type other address : String)
    (present : Table Claimed) :
    owner? (claims.insert type present) other address =
      if other = type then (present.get? address).map Claimed.owner
      else owner? claims other address := by
  unfold owner?
  rw [Table.get?_insert]
  by_cases same : other = type
  · rw [if_pos same, if_pos same]
    rfl
  · rw [if_neg same, if_neg same]

theorem Recorded.reopen {claims : Claims} (recorded : Recorded kind claims run)
    (type : String) :
    Recorded kind (claims.insert type ((claims.get? type).getD ∅)) run := by
  refine ⟨recorded.distinct, recorded.sameKind, ?_⟩
  intro other address owner
  rw [← recorded.owned, owner?_insert]
  by_cases same : other = type
  · rw [if_pos same, same]
    unfold owner?
    cases claims.get? type <;> rfl
  · rw [if_neg same]

theorem Recorded.extend {claims : Claims} {present : Table Claimed} (occurrence : Occurrence)
    (recorded : Recorded kind (claims.insert occurrence.type present) run)
    (sameKind : occurrence.kind = kind) (free : present.get? occurrence.address = none)
    (value : Value) :
    Recorded kind (claims.insert occurrence.type
      (present.insert occurrence.address ⟨value, occurrence.module.label⟩))
      (run ++ [occurrence]) := by
  have unclaimed : ∀ earlier ∈ run, earlier.key ≠ occurrence.key := by
    intro earlier member same
    obtain ⟨_, sameType, sameAddress⟩ : earlier.kind = occurrence.kind ∧
        earlier.type = occurrence.type ∧ earlier.address = occurrence.address := by
      simpa [Occurrence.key] using same
    have owned := (recorded.owned occurrence.type occurrence.address
      earlier.module.label).mpr ⟨earlier, member, sameType, sameAddress, rfl⟩
    rw [owner?_insert, if_pos rfl, free] at owned
    cases owned
  refine ⟨?_, ?_, ?_⟩
  · rw [List.map_append, List.nodup_append]
    refine ⟨recorded.distinct, List.nodup_singleton _, ?_⟩
    intro left inRun right isLast
    obtain ⟨earlier, member, rfl⟩ := List.mem_map.mp inRun
    cases List.mem_singleton.mp isLast
    exact unclaimed earlier member
  · intro other member
    rcases List.mem_append.mp member with inRun | isLast
    · exact recorded.sameKind other inRun
    · cases List.mem_singleton.mp isLast
      exact sameKind
  · intro type address owner
    have before := recorded.owned type address owner
    rw [owner?_insert] at before ⊢
    simp only [List.mem_append, List.mem_singleton, or_and_right, exists_or, exists_eq_left]
    rw [← before]
    by_cases sameType : type = occurrence.type
    · rw [if_pos sameType, if_pos sameType, Table.get?_insert]
      by_cases sameAddress : address = occurrence.address
      · simp [sameType, sameAddress, free]
      · have other : occurrence.address ≠ address := fun same => sameAddress same.symm
        simp [sameAddress, other]
    · have other : occurrence.type ≠ type := fun same => sameType same.symm
      simp [sameType, other]

theorem reports_claimInstances {claims : Claims} {present : Table Claimed} (position : Nat)
    (module : Module) (type : String) (entries : List (String × Value))
    (recorded : Recorded kind (claims.insert type present) run) :
    Reports kind
      (run ++ entries.map fun named => ⟨position, module, kind, type, module.address named.1⟩)
      ((claimInstances .reject kind module type present entries).map (claims.insert type)) := by
  induction entries generalizing present run with
  | nil =>
      rw [List.map_nil, List.append_nil]
      exact recorded
  | cons named rest ih =>
      let here : Occurrence := ⟨position, module, kind, type, module.address named.1⟩
      rw [List.map_cons, ← List.singleton_append, ← List.append_assoc]
      unfold claimInstances
      cases claimed : present.get? (module.address named.1) with
      | none =>
          rw [claim_of_free .reject kind type _ claimed]
          exact ih (Recorded.extend here recorded rfl claimed named.2)
      | some earlier =>
          have owned : owner? (claims.insert type present) type (module.address named.1) =
              some earlier.owner := by
            rw [owner?_insert, if_pos rfl, claimed]
            rfl
          obtain ⟨first, member, sameType, sameAddress, label⟩ :=
            (recorded.owned _ _ _).mp owned
          have sameKey : first.key = here.key := by
            simp only [Occurrence.key, recorded.sameKind first member, sameType, sameAddress, here]
          have repeated : FirstRepeat (run ++ [here]) first here :=
            ⟨run, [], rfl, recorded.distinct, member, sameKey⟩
          rw [claim_reject_of_taken kind type _ claimed]
          exact ⟨first, here, repeated.append _, by rw [label]⟩

theorem reports_claimTypes {claims : Claims} (registry : Registry) (position : Nat)
    (module : Module) (entries : List (String × Table Value))
    (recorded : Recorded kind claims run) :
    Reports kind
      (run ++ ((entries.map module.addressed).filter fun group =>
          registry.contains kind group.1).flatMap fun group =>
            group.2.map fun entry => ⟨position, module, kind, group.1, entry.1⟩)
      (claimTypes .reject registry kind module claims entries) := by
  induction entries generalizing claims run with
  | nil =>
      rw [List.map_nil, List.filter_nil, List.flatMap_nil, List.append_nil]
      exact recorded
  | cons entry rest ih =>
      unfold claimTypes
      rw [List.map_cons]
      by_cases known : registry.contains kind entry.1 = true
      · have first := reports_claimInstances position module entry.1 entry.2.entries
          (recorded.reopen entry.1)
        have kept : registry.contains kind (module.addressed entry).1 = true := known
        rw [if_pos known, List.filter_cons_of_pos (by exact kept), List.flatMap_cons,
          Module.addressed, List.map_map, ← List.append_assoc]
        exact first.bind fun next recordedNext => ih recordedNext
      · have dropped : ¬ registry.contains kind (module.addressed entry).1 = true := known
        rw [if_neg known, List.filter_cons_of_neg (by exact dropped)]
        exact ih recorded

theorem reports_claimModules {claims : Claims} {registry : Registry} (modules : List Module)
    (position : Nat) (recorded : Recorded kind claims run) :
    Reports kind
      (run ++ (modules.zipIdx position).flatMap fun placed =>
        placed.1.occurrences registry kind placed.2)
      (claimModules .reject registry kind claims modules) := by
  induction modules generalizing claims run position with
  | nil =>
      rw [List.zipIdx_nil, List.flatMap_nil, List.append_nil]
      exact recorded
  | cons module rest ih =>
      have first := reports_claimTypes registry position module
        (module.declarations kind).entries recorded
      rw [List.zipIdx_cons, List.flatMap_cons, ← List.append_assoc]
      have unchanged (outcome : Except ProjectError Claims) : outcome.map id = outcome := by
        cases outcome <;> rfl
      rw [← unchanged (claimTypes _ _ _ _ _ _)] at first
      exact first.bind fun next recordedNext => ih (position + 1) recordedNext

end Claims

theorem reports_reject (registry : Registry) (modules : List Module) (kind : EntityKind) :
    Claims.Reports kind (occurrences registry modules kind)
      (Claims.claimModules .reject registry kind ∅ modules) := by
  have nothing : Claims.Recorded kind ∅ [] := by
    refine ⟨List.nodup_nil, by simp, ?_⟩
    intro type address owner
    simp [Claims.owner?]
  exact Claims.reports_claimModules modules 0 nothing

theorem buildManifest_eq_error {policy : CollisionPolicy} {registry : Registry}
    {modules : List Module} {kind : EntityKind} {error : ProjectError}
    (refused : buildManifest policy registry modules kind = .error error) :
    policy = .reject ∧ ∃ earlier again,
      FirstRepeat (occurrences registry modules kind) earlier again ∧
        error = .nameCollision again.kind again.type again.address earlier.module.label
          again.module.label := by
  cases policy with
  | lastWins =>
      rw [buildManifest_lastWins] at refused
      cases refused
  | reject =>
      have reported := reports_reject registry modules kind
      unfold buildManifest at refused
      cases claimed : Claims.claimModules .reject registry kind ∅ modules with
      | ok claims =>
          rw [claimed] at refused
          cases refused
      | error collision =>
          rw [claimed] at refused reported
          cases refused
          exact ⟨rfl, reported⟩

end Stanza
