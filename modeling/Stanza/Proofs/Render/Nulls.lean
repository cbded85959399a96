import Stanza.Proofs.Render.Factoring
import Stanza.Proofs.Render.Layout

set_option autoImplicit false

/-!
Members that are null are as good as absent. Without unions, removing any of them from a value,
at any depth, changes neither the text of its rendering nor its error.
-/

namespace Stanza

open Render

/-! ### Values without some of their null members -/

/-- Members in their order, each with a value related to its own. Members that are null may be
missing. -/
inductive Keeps (related : Value → Value → Prop) :
    List (String × Value) → List (String × Value) → Prop
  | nil : Keeps related [] []
  | dropped {key : String} {members others : List (String × Value)}
      (rest : Keeps related members others) : Keeps related ((key, .null) :: members) others
  | kept {key : String} {value other : Value} {members others : List (String × Value)}
      (first : related value other) (rest : Keeps related members others) :
      Keeps related ((key, value) :: members) ((key, other) :: others)

/-- A value, and the same value without some of the members that are null in it. The elements of
a list all stay, null or not. -/
inductive Pruned : Value → Value → Prop
  | same (value : Value) : Pruned value value
  | list {items others : List Value} (each : List.Forall₂ Pruned items others) :
      Pruned (.list items) (.list others)
  | object {members others : List (String × Value)} (keeps : Keeps Pruned members others) :
      Pruned (.object members) (.object others)

theorem Pruned.isNull_eq {value other : Value} (pruned : Pruned value other) :
    other.isNull = value.isNull := by
  cases pruned <;> rfl

/-- The members that are not null all stay. -/
theorem Keeps.present {members others : List (String × Value)}
    (keeps : Keeps Pruned members others) :
    List.Forall₂ (fun member other => other.1 = member.1 ∧ Pruned member.2 other.2)
      (present members) (present others) := by
  induction keeps with
  | nil => exact .nil
  | dropped rest ih => exact ih
  | @kept key value other _ _ first rest ih =>
      have sameNull := first.isNull_eq
      cases null : value.isNull with
      | true =>
          rw [Render.present, Render.present, List.filter_cons_of_neg (by simp [null]),
            List.filter_cons_of_neg (by simp [sameNull, null])]
          exact ih
      | false =>
          rw [Render.present, Render.present, List.filter_cons_of_pos (by simp [null]),
            List.filter_cons_of_pos (by simp [sameNull, null])]
          exact .cons ⟨rfl, first⟩ ih

/-! ### Members side by side -/

theorem forEachFrom_eq_of_forall₂ {ε α β : Type} {handle : Nat → α → Except ε β}
    {lefts rights : List α}
    (same : List.Forall₂ (fun left right => ∀ index, handle index left = handle index right) lefts
      rights) (index : Nat) :
    forEachFrom handle index lefts = forEachFrom handle index rights := by
  induction same generalizing index with
  | nil => rfl
  | cons first _ ih => rw [forEachFrom, forEachFrom, first, ih]

/-- What one member of an object has in common with what is left of it. -/
structure SameMember (schemas : MemberSchemas) (member other : Member) : Prop where
  key : other.key = member.key
  schema : other.schema = member.schema
  declared : schemas.find? member.key = some member.schema
  pruned : Pruned member.value other.value

theorem membersOf_parallel (schemas : MemberSchemas) (location : Location)
    {members others : List (String × Value)} (keeps : Keeps Pruned members others) :
    Parallel (List.Forall₂ (SameMember schemas)) (membersOf schemas location members)
      (membersOf schemas location others) := by
  refine mapM_parallel ?_ keeps.present
  rintro ⟨key, value⟩ ⟨otherKey, other⟩ ⟨sameKey, pruned⟩
  cases sameKey
  simp only
  cases declared : schemas.find? key with
  | none => exact .error _
  | some schema => exact .ok ⟨rfl, rfl, declared, pruned⟩

/-! ### Elaboration -/

namespace Outline

/-- Elaborating along a schema gives the same for a value and for what is left of it. -/
def Overlooks (child : Elaborator) (schema : Schema) : Prop :=
  ∀ value other, Pruned value other → ∀ location depth,
    child schema value location depth = child schema other location depth

section Pieces

variable {child : Elaborator} {value other : Value} (pruned : Pruned value other)

include pruned

theorem elaborateList_of_pruned {element : Schema} (overlooks : Overlooks child element)
    (location : Location) :
    elaborateList child element value location = elaborateList child element other location := by
  cases pruned with
  | same => rfl
  | object => rfl
  | list each =>
      have same := forEachFrom_eq_of_forall₂ (each.imp fun item other inner index =>
        overlooks item other inner (location.index index) 0) 0
      simp only [elaborateList, Value.asList?, same]

theorem elaborateMember_of_pruned {key : String} {schema : Schema}
    (overlooks : Overlooks child schema)
    (overlooksBlock : ∀ block, Schema.RepeatsBlock schema block → Overlooks child block)
    (quoted : Bool) (location : Location) :
    elaborateMember child quoted location ⟨key, value, schema⟩ =
      elaborateMember child quoted location ⟨key, other, schema⟩ := by
  have whole := overlooks value other pruned (location.key key) 0
  rcases Schema.blockSchema?_cases schema with
    ⟨_, isBlock⟩ | ⟨block, repeats, isRepeated⟩ | ⟨_, _, isAttribute⟩
  · simp only [elaborateMember, isBlock, whole]
  · cases pruned with
    | same => rfl
    | object =>
        simp only [elaborateMember, isRepeated, Value.asList?]
        rfl
    | list each =>
        have same := forEachFrom_eq_of_forall₂ (each.imp fun item other inner index =>
          overlooksBlock block repeats item other inner ((location.key key).index index) 0) 0
        simp only [elaborateMember, isRepeated, Value.asList?, same]
  · simp only [elaborateMember, isAttribute, whole]

theorem elaborateObject_of_pruned {schema : Schema} {schemas : MemberSchemas}
    (overlooks : ∀ key inner, schemas.find? key = some inner → Overlooks child inner ∧
      ∀ block, Schema.RepeatsBlock inner block → Overlooks child block)
    (location : Location) :
    elaborateObject child schema schemas value location =
      elaborateObject child schema schemas other location := by
  cases pruned with
  | same => rfl
  | list => rfl
  | @object members others keeps =>
      simp only [elaborateObject, Value.asObject?]
      refine (membersOf_parallel schemas location keeps).bind_eq fun shown left pairs => ?_
      have same : shown.mapM (elaborateMember child schemas.quoteKeys location) =
          left.mapM (elaborateMember child schemas.quoteKeys location) := by
        refine mapM_eq_of_forall₂ (pairs.imp ?_)
        rintro ⟨key, item, inner⟩ ⟨_, other, _⟩ ⟨rfl, rfl, declared, pruned⟩
        obtain ⟨whole, block⟩ := overlooks _ _ declared
        exact elaborateMember_of_pruned pruned whole block _ _
      rw [same]

end Pieces

/-- By induction on the nesting, for all schemas without unions. -/
theorem overlooks_elaborate (resolver : Resolver) (resourceType : String) (nesting : Nat) :
    ∀ schema : Schema, schema.isUnionFree = true →
      Overlooks (elaborate resolver resourceType nesting) schema := by
  induction nesting with
  | zero =>
      intro schema _ value other _ location depth
      rfl
  | succ nesting ih =>
      intro schema unionFree value other pruned location depth
      have inside {schemas : MemberSchemas} (isObject : memberSchemas? schema = some schemas)
          (key : String) (inner : Schema) (declared : schemas.find? key = some inner) :
          Overlooks (elaborate resolver resourceType nesting) inner ∧
            ∀ block, Schema.RepeatsBlock inner block →
              Overlooks (elaborate resolver resourceType nesting) block := by
        have innerFree := Schema.isUnionFree_of_find? unionFree isObject declared
        refine ⟨ih inner innerFree, ?_⟩
        rintro block ⟨_, _⟩
        exact ih block innerFree
      cases schema with
      | scalar label kind => cases pruned <;> cases kind <;> rfl
      | list label element => exact elaborateList_of_pruned pruned (ih element unionFree) location
      | dictionary label element => exact elaborateObject_of_pruned pruned (inside rfl) location
      | record label fields => exact elaborateObject_of_pruned pruned (inside rfl) location
      | union label alternatives => cases unionFree

end Outline

/--
Null members are absent members. Whatever the options, a value renders along a schema without
unions as it does without any of the members that are null in it, however deep: to the same
text, or with the same error at the same location.
-/
theorem renderAt_of_pruned (renderer : Renderer) (resourceType : String) {schema : Schema}
    (unionFree : schema.isUnionFree = true) {value other : Value} (pruned : Pruned value other)
    (location : Location) :
    renderer.renderAt resourceType schema other location =
      renderer.renderAt resourceType schema value location := by
  rw [Renderer.renderAt, Renderer.renderAt, Outline.renderNode_prints, Outline.renderNode_prints,
    Outline.overlooks_elaborate _ _ _ schema unionFree value other pruned]

def ruleFields : List (Field Schema) :=
  [⟨"tags", false, .dictionary {} (.scalar {} .string)⟩,
    ⟨"ports", false, .list {} (.scalar {} .number)⟩,
    ⟨"rule", false, .list {} (.record ⟨.block, none⟩ [⟨"name", true, .scalar {} .string⟩])⟩]

/-- Nulls in a dictionary, among the elements of a list, in a repeated block, and under a name
that no field has. -/
def withNulls : Value :=
  .object [("undeclared", .null), ("tags", .object [("longer", .null), ("a", .string "x")]),
    ("ports", .list [.null]), ("rule", .list [.object [("name", .string "n"), ("note", .null)]])]

def withoutNulls : Value :=
  .object [("tags", .object [("a", .string "x")]), ("ports", .list [.null]),
    ("rule", .list [.object [("name", .string "n")]])]

theorem pruned_withNulls : Pruned withNulls withoutNulls := by
  have tags : Pruned (.object [("longer", .null), ("a", .string "x")])
      (.object [("a", .string "x")]) := .object (.dropped (.kept (.same _) .nil))
  have rule : Pruned (.object [("name", .string "n"), ("note", .null)])
      (.object [("name", .string "n")]) := .object (.kept (.same _) (.dropped .nil))
  exact .object (.dropped (.kept tags (.kept (.same _) (.kept (.list (.cons rule .nil)) .nil))))

theorem withNulls_as_withoutNulls :
    (Schema.record ⟨.resource, none⟩ ruleFields).isUnionFree = true ∧
      Pruned withNulls withoutNulls ∧
      Renderer.renderAt {} "service" (.record ⟨.resource, none⟩ ruleFields) withNulls
          (.root "service") =
        .ok ⟨"\x7b\n  tags  = =\n    \"a\" = \"x\"\n  ports = [\n    0,\n  ]\n\n" ++
          "  rule \x7b\n    name = \"n\"\n  \x7d\n\x7d", []⟩ :=
  ⟨rfl, pruned_withNulls,
    (renderAt_of_pruned {} "service" rfl pruned_withNulls (.root "service")).symm.trans rfl⟩

end Stanza
