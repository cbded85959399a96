import Stanza.Proofs.Render.Alternatives
import Stanza.Proofs.Render.Contexts
import Stanza.Proofs.Render.FirstOffence

set_option autoImplicit false

/-!
Unions inside unions against one flat union of their leaves. Both choose the leftmost leaf
that accepts the value, so that they can be exchanged wherever the outer union stands, as
long as no more than sixteen unions follow directly on each other.
-/

namespace Stanza

open Render

/-! ### Leaves of a union -/

namespace Schema

mutual
/-- The schemas at the ends of the unions, from left to right. -/
def leaves : Schema → List Schema
  | .scalar label kind => [.scalar label kind]
  | .list label element => [.list label element]
  | .dictionary label value => [.dictionary label value]
  | .record label fields => [.record label fields]
  | .union _ alternatives => leavesOfAll alternatives
termination_by structural schema => schema

def leavesOfAll : List Schema → List Schema
  | [] => []
  | schema :: rest => schema.leaves ++ leavesOfAll rest
termination_by structural schemas => schemas
end

mutual
/-- How many unions follow directly on each other, at most. -/
def unionDepth : Schema → Nat
  | .scalar _ _ => 0
  | .list _ _ => 0
  | .dictionary _ _ => 0
  | .record _ _ => 0
  | .union _ alternatives => unionDepthOfAll alternatives + 1
termination_by structural schema => schema

def unionDepthOfAll : List Schema → Nat
  | [] => 0
  | schema :: rest => max schema.unionDepth (unionDepthOfAll rest)
termination_by structural schemas => schemas
end

/-- The union of all leaves, with the name and the marker of the outermost union. -/
def flat : Schema → Schema
  | .union label alternatives => .union label (leavesOfAll alternatives)
  | other => other

theorem leavesOfAll_eq_flatMap (schemas : List Schema) :
    leavesOfAll schemas = schemas.flatMap leaves := by
  induction schemas with
  | nil => rfl
  | cons schema rest ih => rw [leavesOfAll, List.flatMap_cons, ih]

theorem leaves_of_single {schema : Schema} (single : ∀ label others, schema ≠ .union label others) :
    schema.leaves = [schema] := by
  cases schema with
  | union label others => exact absurd rfl (single label others)
  | scalar | list | dictionary | record => rfl

theorem unionDepth_le_unionDepthOfAll {schemas : List Schema} {schema : Schema}
    (member : schema ∈ schemas) : schema.unionDepth ≤ unionDepthOfAll schemas := by
  induction schemas with
  | nil => cases member
  | cons head rest ih =>
      simp only [unionDepthOfAll]
      rcases List.mem_cons.mp member with same | later
      · subst same
        exact Nat.le_max_left _ _
      · exact Nat.le_trans (ih later) (Nat.le_max_right _ _)

/-- Induction from the leaves of unions to the unions of them. -/
theorem union_induction {motive : Schema → Prop}
    (leaf : ∀ schema, (∀ label others, schema ≠ .union label others) → motive schema)
    (union : ∀ label alternatives, (∀ alternative ∈ alternatives, motive alternative) →
      motive (.union label alternatives)) (schema : Schema) : motive schema := by
  induction height : schema.height using Nat.strongRecOn generalizing schema with
  | ind _ ih =>
      subst height
      cases schema with
      | union label alternatives =>
          refine union label alternatives fun alternative inside => ?_
          have lower := height_le_heightOfAll inside
          exact ih _ (by simp only [Schema.height]; omega) alternative rfl
      | scalar | list | dictionary | record =>
          refine leaf _ ?_
          intro label others same
          cases same

theorem single_of_mem_leaves {schema leaf : Schema} (member : leaf ∈ schema.leaves) :
    ∀ label others, leaf ≠ .union label others := by
  induction schema using union_induction with
  | leaf schema single =>
      rw [leaves_of_single single] at member
      cases List.mem_singleton.mp member
      exact single
  | union label alternatives ih =>
      rw [leaves, leavesOfAll_eq_flatMap, List.mem_flatMap] at member
      obtain ⟨alternative, inside, below⟩ := member
      exact ih alternative inside below

theorem height_le_of_mem_leaves {schema leaf : Schema} (member : leaf ∈ schema.leaves) :
    leaf.height ≤ schema.height := by
  induction schema using union_induction with
  | leaf schema single =>
      rw [leaves_of_single single] at member
      cases List.mem_singleton.mp member
      exact Nat.le_refl _
  | union label alternatives ih =>
      rw [leaves, leavesOfAll_eq_flatMap, List.mem_flatMap] at member
      obtain ⟨alternative, inside, below⟩ := member
      have lower := ih alternative inside below
      have inAll := height_le_heightOfAll inside
      simp only [height]
      omega

end Schema

/-! ### The leaf of a value -/

namespace Resolver

/-- A schema accepts what one of its leaves accepts. -/
theorem accepts_eq_any_leaves (schema : Schema) (value : Value) :
    accepts schema value = schema.leaves.any fun leaf => accepts leaf value := by
  induction schema using Schema.union_induction with
  | leaf schema single => rw [Schema.leaves_of_single single, List.any_cons, List.any_nil,
      Bool.or_false]
  | union label alternatives ih =>
      rw [accepts_union, Schema.leaves, Schema.leavesOfAll_eq_flatMap, List.any_flatMap,
        Bool.eq_iff_iff, List.any_eq_true, List.any_eq_true]
      exact exists_congr fun alternative => and_congr_right fun inside => by
        rw [ih alternative inside]

theorem FirstAccepting.accepted {alternatives : List Schema} {value : Value} {chosen : Schema}
    (first : FirstAccepting alternatives value chosen) : accepts chosen value = true := by
  obtain ⟨_, _, _, _, accepted⟩ := first
  exact accepted

/-- The leftmost leaf that accepts is the one of the first alternative that accepts. -/
theorem FirstAccepting.of_leaves {alternatives : List Schema} {value : Value} {leaf : Schema}
    (first : FirstAccepting (Schema.leavesOfAll alternatives) value leaf) :
    ∃ chosen, FirstAccepting alternatives value chosen ∧
      FirstAccepting chosen.leaves value leaf := by
  rw [← find?_accepts_eq_some_iff, Schema.leavesOfAll_eq_flatMap] at first
  simp only [← find?_accepts_eq_some_iff]
  induction alternatives with
  | nil => cases first
  | cons alternative rest ih =>
      rw [List.flatMap_cons, List.find?_append] at first
      rw [List.find?_cons, accepts_eq_any_leaves]
      cases found : alternative.leaves.find? fun leaf => accepts leaf value with
      | some other =>
          rw [found, Option.some_or] at first
          cases first
          have leafAccepts := List.find?_some found
          have accepted : (alternative.leaves.any fun leaf => accepts leaf value) = true :=
            List.any_eq_true.mpr ⟨leaf, List.mem_of_find?_eq_some found, leafAccepts⟩
          rw [accepted]
          exact ⟨alternative, rfl, found⟩
      | none =>
          rw [found, Option.none_or] at first
          have refused : (alternative.leaves.any fun leaf => accepts leaf value) = false := by
            simpa using found
          rw [refused]
          exact ih first

theorem not_firstAccepting_of_leaves {alternatives : List Schema} {value : Value}
    (none : ∀ leaf, ¬ FirstAccepting (Schema.leavesOfAll alternatives) value leaf)
    (chosen : Schema) : ¬ FirstAccepting alternatives value chosen := by
  intro first
  have accepted := first.accepted
  rw [accepts_eq_any_leaves] at accepted
  obtain ⟨leaf, inside, leafAccepts⟩ := List.any_eq_true.mp accepted
  rw [not_firstAccepting_iff] at none
  have inAll : leaf ∈ Schema.leavesOfAll alternatives := by
    rw [Schema.leavesOfAll_eq_flatMap]
    exact List.mem_flatMap.mpr ⟨chosen, first.mem, inside⟩
  rw [none leaf inAll] at leafAccepts
  cases leafAccepts

end Resolver

namespace Outline

/-- As long as the budget lasts, a value goes to the leftmost leaf that accepts it. -/
theorem elaborate_of_leaf (resourceType : String) {schema leaf : Schema} {value : Value}
    (plain : ∀ text, value ≠ Resolver.expression text)
    (first : Resolver.FirstAccepting schema.leaves value leaf) (nesting : Nat)
    (low : schema.height ≤ nesting) (location : Location) (depth : Nat)
    (few : depth + schema.unionDepth ≤ 16) :
    elaborate Resolver.structural resourceType nesting schema value location depth =
      elaborate Resolver.structural resourceType nesting leaf value location 0 := by
  induction schema using Schema.union_induction generalizing nesting depth with
  | leaf schema single =>
      have own := first.mem
      rw [Schema.leaves_of_single single] at own
      cases List.mem_singleton.mp own
      exact elaborate_depth resourceType single _ location depth 0
  | union label alternatives ih =>
      obtain ⟨chosen, firstChosen, firstLeaf⟩ := first.of_leaves
      have lower := Schema.height_le_heightOfAll firstChosen.mem
      have fewer := Schema.unionDepth_le_unionDepthOfAll firstChosen.mem
      have leafLow := Schema.height_le_of_mem_leaves firstLeaf.mem
      simp only [Schema.height, Schema.unionDepth] at low few
      obtain ⟨less, rfl⟩ : ∃ less, nesting = less + 1 := ⟨nesting - 1, by omega⟩
      calc elaborate Resolver.structural resourceType (less + 1) (.union label alternatives) value
            location depth
        _ = elaborate Resolver.structural resourceType less chosen value location (depth + 1) :=
            elaborateUnion_of_picks resourceType ⟨plain, firstChosen⟩ _ location (by omega)
        _ = elaborate Resolver.structural resourceType less leaf value location 0 :=
            ih chosen firstChosen.mem firstLeaf less (by omega) (depth + 1) (by omega)
        _ = elaborate Resolver.structural resourceType (less + 1) leaf value location 0 := by
            rw [elaborate_eq_of_height_le resourceType less leaf (less + 1) (by omega) (by omega)]

/-- Every union is answered by the text of a raw expression, or refuses in its own name a value
that no alternative accepts. -/
theorem elaborate_union_of_no_leaf (resourceType : String) (nesting : Nat) (label : Label)
    (alternatives others : List Schema) {value : Value}
    (same : (∃ text, value = Resolver.expression text) ∨
      (∀ chosen, ¬ Resolver.FirstAccepting alternatives value chosen) ∧
        ∀ chosen, ¬ Resolver.FirstAccepting others value chosen)
    (location : Location) :
    elaborate Resolver.structural resourceType (nesting + 1) (.union label alternatives) value
        location 0 =
      elaborate Resolver.structural resourceType (nesting + 1) (.union label others) value
        location 0 := by
  simp only [elaborate, elaborateUnion]
  rcases same with ⟨text, rfl⟩ | ⟨refused, refusedToo⟩
  · rfl
  · rcases Resolver.structural_union resourceType label alternatives value with
      ⟨text, rfl, _⟩ | ⟨_, ⟨chosen, first, _⟩ | ⟨_, answer⟩⟩
    · rfl
    · exact absurd first (refused chosen)
    · rcases Resolver.structural_union resourceType label others value with
        ⟨text, rfl, _⟩ | ⟨_, ⟨chosen, first, _⟩ | ⟨_, answerToo⟩⟩
      · rfl
      · exact absurd first (refusedToo chosen)
      · rw [answer, answerToo]
        rfl

theorem elaborate_flat (resourceType : String) {label : Label} {alternatives : List Schema}
    (shallow : (Schema.union label alternatives).unionDepth ≤ 16) (nesting : Nat) (value : Value)
    (location : Location) (low : (Schema.union label alternatives).height ≤ nesting)
    (lowFlat : (Schema.union label alternatives).flat.height ≤ nesting) :
    elaborate Resolver.structural resourceType nesting (.union label alternatives) value location
        0 =
      elaborate Resolver.structural resourceType nesting (Schema.union label alternatives).flat
        value location 0 := by
  by_cases expression : ∃ text, value = Resolver.expression text
  · obtain ⟨less, rfl⟩ : ∃ less, nesting = less + 1 :=
      ⟨nesting - 1, by simp only [Schema.height] at low; omega⟩
    exact elaborate_union_of_no_leaf resourceType less label _ _ (.inl expression) location
  · have plain : ∀ text, value ≠ Resolver.expression text := fun text same =>
      expression ⟨text, same⟩
    by_cases accepted : ∃ leaf,
        Resolver.FirstAccepting (Schema.leavesOfAll alternatives) value leaf
    · obtain ⟨leaf, first⟩ := accepted
      have firstLeaf : Resolver.FirstAccepting (Schema.union label alternatives).leaves value
          leaf := first
      have single := Schema.single_of_mem_leaves firstLeaf.mem
      calc elaborate Resolver.structural resourceType nesting (.union label alternatives) value
            location 0
        _ = elaborate Resolver.structural resourceType nesting leaf value location 0 :=
            elaborate_of_leaf resourceType plain firstLeaf nesting low location 0 (by omega)
        _ = elaborate Resolver.structural resourceType nesting
              (Schema.union label alternatives).flat value location 0 :=
            (elaborate_of_picks resourceType ⟨plain, first⟩ single lowFlat location).symm
    · have none : ∀ leaf,
          ¬ Resolver.FirstAccepting (Schema.leavesOfAll alternatives) value leaf :=
        fun leaf first => accepted ⟨leaf, first⟩
      obtain ⟨less, rfl⟩ : ∃ less, nesting = less + 1 :=
        ⟨nesting - 1, by simp only [Schema.height] at low; omega⟩
      exact elaborate_union_of_no_leaf resourceType less label _ _
        (.inr ⟨Resolver.not_firstAccepting_of_leaves none, none⟩) location

end Outline

/-! ### Flat unions for nested ones -/

theorem interchangeable_flat {label : Label} {alternatives : List Schema}
    (shallow : (Schema.union label alternatives).unionDepth ≤ 16) :
    Interchangeable (.union label alternatives) (Schema.union label alternatives).flat where
  marker := rfl
  leftSingle _ := nofun
  rightSingle _ := nofun
  accepts value := by
    rw [Resolver.accepts_eq_any_leaves, Schema.leaves, Schema.flat, Resolver.accepts_union]
  elaborated _ nesting value location low lowFlat :=
    Outline.elaborate_flat _ shallow nesting value location low lowFlat

/-- An inner union that was picked has an alternative for the value. -/
theorem Resolver.answers_inner_union {resourceType : String} {label innerLabel : Label}
    {alternatives inner : List Schema} {value next : Value}
    (picked : (structural resourceType (.union label alternatives) value).answer =
      .ok (.indirect (.union innerLabel inner) next)) :
    next = value ∧ ∃ chosen, FirstAccepting inner value chosen ∧
      structural resourceType (.union innerLabel inner) next =
        ⟨[], .ok (.indirect chosen value)⟩ := by
  rcases structural_union resourceType label alternatives value with
    ⟨_, _, answer⟩ | ⟨plain, ⟨chosen, firstOuter, answer⟩ | ⟨_, answer⟩⟩
  · rw [answer] at picked
    cases picked
  · rw [answer] at picked
    cases picked
    refine ⟨rfl, ?_⟩
    rcases structural_union resourceType innerLabel inner value with
      ⟨text, isExpression, _⟩ | ⟨_, ⟨leaf, first, answerInner⟩ | ⟨refused, _⟩⟩
    · exact absurd isExpression (plain text)
    · exact ⟨leaf, first, answerInner⟩
    · have accepted := firstOuter.accepted
      rw [not_firstAccepting_iff] at refused
      rw [accepts_union, List.any_eq_true] at accepted
      obtain ⟨alternative, inside, accepts⟩ := accepted
      rw [refused alternative inside] at accepts
      cases accepts
  · rw [answer] at picked
    cases picked

/--
Nested unions flatten. Wherever a union of at most sixteen directly nested unions stands that
is not itself an alternative, the flat union of its leaves can stand in its place, and every
rendering gives the same text, companions and error. The inner union that a union picks is
never at a loss, and the union renders a value as the leftmost leaf does that accepts it.
-/
theorem renderAt_flatten_union (options : RenderOptions) (reach : Nat) (resourceType : String)
    (location : Location) (label : Label) (alternatives : List Schema)
    (shallow : (Schema.union label alternatives).unionDepth ≤ 16) :
    (∀ context : SchemaContext, context.isAlternative = false → ∀ value,
      Renderer.renderAt ⟨Resolver.structural, options, reach⟩ resourceType
          (context.fill (.union label alternatives)) value location =
        Renderer.renderAt ⟨Resolver.structural, options, reach⟩ resourceType
          (context.fill (Schema.union label alternatives).flat) value location) ∧
    (∀ outerLabel outer innerLabel inner value next,
      (Resolver.structural resourceType (.union outerLabel outer) value).answer =
          .ok (.indirect (.union innerLabel inner) next) →
        next = value ∧ ∃ chosen, Resolver.FirstAccepting inner value chosen ∧
          Resolver.structural resourceType (.union innerLabel inner) next =
            ⟨[], .ok (.indirect chosen value)⟩) ∧
    ∀ value leaf, (∀ text, value ≠ Resolver.expression text) →
      Resolver.FirstAccepting (Schema.union label alternatives).leaves value leaf →
      ∀ nesting level, (Schema.union label alternatives).height ≤ nesting →
        Renderer.renderNode ⟨Resolver.structural, options, reach⟩ resourceType nesting
            (.union label alternatives) value level location 0 =
          Renderer.renderNode ⟨Resolver.structural, options, reach⟩ resourceType nesting leaf
            value level location 0 := by
  have printed (nesting : Nat) (schema : Schema) (value : Value) (level : Nat) :
      Renderer.renderNode ⟨Resolver.structural, options, reach⟩ resourceType nesting schema value
          level location 0 =
        (Outline.elaborate Resolver.structural resourceType nesting schema value location 0).map
          (Outline.rendering options level) :=
    Outline.renderNode_prints ⟨Resolver.structural, options, reach⟩ resourceType _ _ _ _ _ _
  refine ⟨?_, fun _ _ _ _ _ _ picked => Resolver.answers_inner_union picked, ?_⟩
  · intro context apart value
    -- both schemas are elaborated with the same nesting, enough for either
    let enough := (context.fill (.union label alternatives)).height +
      (context.fill (Schema.union label alternatives).flat).height + reach
    have alike := (interchangeable_flat shallow).alike_fill resourceType enough context apart
      (by omega) (by omega) value location 0 fun _ => rfl
    unfold Renderer.renderAt
    rw [printed, printed, Outline.elaborate_eq_of_height_le resourceType _ _ enough (by simp)
      (by omega), alike, Outline.elaborate_eq_of_height_le resourceType enough _
      ((context.fill (Schema.union label alternatives).flat).height + reach) (by omega) (by simp)]
  · intro value leaf plain first nesting level low
    rw [printed, printed, Outline.elaborate_of_leaf resourceType plain first nesting low location
      0 (by omega)]

def nestedTargets : List Schema :=
  [.union ⟨.none, some "inner"⟩ [.scalar {} .string, .union {} [.list {} (.scalar {} .string)]],
    .scalar {} .number]

/-- Three unions deep, in a field of the records of a list. -/
theorem nestedTargets_in_field :
    (Schema.union {} nestedTargets).unionDepth ≤ 16 ∧
      Renderer.render {} "link"
          ((SchemaContext.list {} (.field {} [] "target" true .hole [])).fill
            (.union {} nestedTargets))
          (.list [.object [("target", .list [.string "a"])]]) =
        Renderer.render {} "link"
          ((SchemaContext.list {} (.field {} [] "target" true .hole [])).fill
            (.union {} [.scalar {} .string, .list {} (.scalar {} .string), .scalar {} .number]))
          (.list [.object [("target", .list [.string "a"])]]) ∧
      (∃ chosen, Resolver.structural "link" (.union {} [.list {} (.scalar {} .string)])
        (.list []) = ⟨[], .ok (.indirect chosen (.list []))⟩) ∧
      Renderer.renderNode {} "link" 5 (.union {} nestedTargets) (.list [.string "a"]) 1
          (.root "link") 0 =
        Renderer.renderNode {} "link" 5 (.list {} (.scalar {} .string)) (.list [.string "a"]) 1
          (.root "link") 0 := by
  have shallow : (Schema.union {} nestedTargets).unionDepth ≤ 16 := by decide
  have flattened := renderAt_flatten_union {} 0 "link" (.root "link") {} nestedTargets shallow
  have picked : (Resolver.structural "link" (.union ⟨.none, some "inner"⟩
      [.scalar {} .string, .union {} [.list {} (.scalar {} .string)]]) (.list [])).answer =
        .ok (.indirect (.union {} [.list {} (.scalar {} .string)]) (.list [])) := rfl
  obtain ⟨_, chosen, _, answer⟩ := flattened.2.1 _ _ _ _ _ _ picked
  have plain (text : String) : Value.list [.string "a"] ≠ Resolver.expression text := by
    intro same
    cases same
  have first : Resolver.FirstAccepting (Schema.union {} nestedTargets).leaves
      (.list [.string "a"]) (.list {} (.scalar {} .string)) :=
    ⟨[.scalar {} .string], [.scalar {} .number], rfl, by simp [Resolver.accepts], rfl⟩
  exact ⟨shallow, flattened.1 _ rfl _, ⟨chosen, answer⟩,
    flattened.2.2 _ _ plain first 5 1 (by decide)⟩

end Stanza
