import Stanza.Proofs.Outcome
import Stanza.Proofs.Schema
import Stanza.Render.Renderer

set_option autoImplicit false

/-!
What one schema on the way down does: the equation of rendering for each kind of schema,
and the answers of the structural resolver.
-/

namespace Stanza

theorem Value.asList?_eq_some_iff {value : Value} {items : List Value} :
    value.asList? = some items ↔ value = .list items := by
  cases value <;> simp [Value.asList?]

theorem Value.asList?_eq_none_iff {value : Value} :
    value.asList? = none ↔ ∀ items, value ≠ .list items := by
  cases value <;> simp [Value.asList?]

theorem Value.asObject?_eq_some_iff {value : Value} {members : List (String × Value)} :
    value.asObject? = some members ↔ value = .object members := by
  cases value <;> simp [Value.asObject?]

theorem Value.asObject?_eq_none_iff {value : Value} :
    value.asObject? = none ↔ ∀ members, value ≠ .object members := by
  cases value <;> simp [Value.asObject?]

/-! ### One schema -/

namespace Renderer

open Render

variable (renderer : Renderer) (resourceType : String) (nesting : Nat) (label : Label)
  (value : Value) (level : Nat) (location : Location) (depth : Nat)

@[simp] theorem renderNode_zero (schema : Schema) :
    renderer.renderNode resourceType 0 schema value level location depth =
      .error (.nestingExhausted location) := rfl

@[simp] theorem renderNode_string :
    renderer.renderNode resourceType (nesting + 1) (.scalar label .string) value level location
        depth =
      match value.asString? with
      | some text => .ok ⟨Text.literal text, []⟩
      | none => mismatch location "string" value := rfl

@[simp] theorem renderNode_boolean :
    renderer.renderNode resourceType (nesting + 1) (.scalar label .boolean) value level location
        depth =
      .ok ⟨match value with | .bool true => "true" | _ => "false", []⟩ := rfl

@[simp] theorem renderNode_number :
    renderer.renderNode resourceType (nesting + 1) (.scalar label .number) value level location
        depth =
      .ok ⟨numberText value, []⟩ := rfl

@[simp] theorem renderNode_list (element : Schema) :
    renderer.renderNode resourceType (nesting + 1) (.list label element) value level location
        depth =
      renderList (renderer.renderNode resourceType nesting) element value level location := rfl

@[simp] theorem renderNode_dictionary (element : Schema) :
    renderer.renderNode resourceType (nesting + 1) (.dictionary label element) value level
        location depth =
      renderObject (renderer.renderNode resourceType nesting) renderer.options
        (.dictionary label element) (.uniform element) value level location := rfl

@[simp] theorem renderNode_record (fields : List (Field Schema)) :
    renderer.renderNode resourceType (nesting + 1) (.record label fields) value level location
        depth =
      renderObject (renderer.renderNode resourceType nesting) renderer.options
        (.record label fields) (.declared fields) value level location := rfl

@[simp] theorem renderNode_union (alternatives : List Schema) :
    renderer.renderNode resourceType (nesting + 1) (.union label alternatives) value level
        location depth =
      renderUnion (renderer.renderNode resourceType nesting) renderer.resolver resourceType
        (.union label alternatives) value level location depth := rfl

end Renderer

namespace Render

/-! ### Elements of a list -/

theorem succeeds_forEachFrom_iff {ε α β : Type} {handle : Nat → α → Except ε β}
    {holds : α → Prop} (each : ∀ index item, Succeeds (handle index item) ↔ holds item)
    (index : Nat) (items : List α) :
    Succeeds (forEachFrom handle index items) ↔ ∀ item ∈ items, holds item := by
  induction items generalizing index with
  | nil => simp [forEachFrom]
  | cons item rest ih =>
      rw [forEachFrom, List.forall_mem_cons, succeeds_bind_iff, ← ih (index + 1),
        ← each index item]
      constructor
      · rintro ⟨first, firstIs, tail⟩
        exact ⟨⟨first, firstIs⟩, (succeeds_bind_pure_iff _).mp tail⟩
      · rintro ⟨⟨first, firstIs⟩, tail⟩
        exact ⟨first, firstIs, (succeeds_bind_pure_iff _).mpr tail⟩

theorem forall₂_of_forEachFrom {ε α β : Type} {handle : Nat → α → Except ε β} {index : Nat}
    {items : List α} {results : List β} (handled : forEachFrom handle index items = .ok results) :
    List.Forall₂ (fun item result => ∃ position, handle position item = .ok result)
      items results := by
  induction items generalizing index results with
  | nil =>
      cases handled
      exact .nil
  | cons item rest ih =>
      rw [forEachFrom] at handled
      obtain ⟨first, firstIs, tail⟩ := bind_eq_ok_iff.mp handled
      obtain ⟨others, othersAre, same⟩ := bind_eq_ok_iff.mp tail
      cases same
      exact .cons ⟨index, firstIs⟩ (ih othersAre)

/-! ### Members of an object -/

/-- Where the members of an object find their schemas, for schemas of objects. -/
def memberSchemas? : Schema → Option MemberSchemas
  | .dictionary _ element => some (.uniform element)
  | .record _ fields => some (.declared fields)
  | _ => none

def present (members : List (String × Value)) : List (String × Value) :=
  members.filter fun member => !member.2.isNull

theorem mem_present {members : List (String × Value)} {member : String × Value} :
    member ∈ present members ↔ member ∈ members ∧ member.2.isNull = false := by
  simp [present]

theorem membersOf_eq_ok_iff (schemas : MemberSchemas) (location : Location)
    (members : List (String × Value)) (found : List Member) :
    membersOf schemas location members = .ok found ↔
      List.Forall₂ (fun member entry => entry.key = member.1 ∧ entry.value = member.2 ∧
        schemas.find? member.1 = some entry.schema) (present members) found := by
  unfold membersOf
  refine mapM_eq_ok_iff_of ?_ _ _
  intro member entry
  cases schemas.find? member.1 with
  | none => simp
  | some schema =>
      cases entry
      simp [eq_comm]

end Render

/-! ### Answers of the structural resolver -/

namespace Resolver

/-- The chosen alternative accepts the value, and none before it does. -/
def FirstAccepting (alternatives : List Schema) (value : Value) (chosen : Schema) : Prop :=
  ∃ before after, alternatives = before ++ chosen :: after ∧
    (∀ earlier ∈ before, accepts earlier value = false) ∧ accepts chosen value = true

theorem FirstAccepting.mem {alternatives : List Schema} {value : Value} {chosen : Schema}
    (first : FirstAccepting alternatives value chosen) : chosen ∈ alternatives := by
  obtain ⟨before, after, rfl, _, _⟩ := first
  simp

theorem find?_accepts_eq_some_iff (alternatives : List Schema) (value : Value)
    (chosen : Schema) :
    (alternatives.find? fun alternative => accepts alternative value) = some chosen ↔
      FirstAccepting alternatives value chosen := by
  rw [List.find?_eq_some_iff_append]
  constructor
  · rintro ⟨accepted, before, after, same, earlier⟩
    exact ⟨before, after, same, fun schema member => by simpa using earlier schema member,
      accepted⟩
  · rintro ⟨before, after, same, earlier, accepted⟩
    exact ⟨accepted, before, after, same, fun schema member => by simp [earlier schema member]⟩

theorem FirstAccepting.unique {alternatives : List Schema} {value : Value}
    {left right : Schema} (isLeft : FirstAccepting alternatives value left)
    (isRight : FirstAccepting alternatives value right) : left = right := by
  have foundLeft := (find?_accepts_eq_some_iff alternatives value left).mpr isLeft
  have foundRight := (find?_accepts_eq_some_iff alternatives value right).mpr isRight
  exact Option.some.inj (foundLeft.symm.trans foundRight)

def expression (text : String) : Value := .object [(expressionKey, .string text)]

theorem rawExpression?_eq_some_iff (value : Value) (text : String) :
    rawExpression? value = some text ↔ value = expression text := by
  unfold expression
  constructor
  · intro found
    unfold rawExpression? at found
    split at found
    · rename_i key inner
      by_cases named : key = expressionKey
      · rw [if_pos named] at found
        cases found
        rw [named]
      · rw [if_neg named] at found
        cases found
    · cases found
  · rintro rfl
    rfl

theorem structural_union (resourceType : String) (label : Label) (alternatives : List Schema)
    (value : Value) :
    (∃ text, value = expression text ∧
        structural resourceType (.union label alternatives) value =
          ⟨[], .ok (.direct text)⟩) ∨
      ((∀ text, value ≠ expression text) ∧
        ((∃ chosen, FirstAccepting alternatives value chosen ∧
          structural resourceType (.union label alternatives) value =
            ⟨[], .ok (.indirect chosen value)⟩) ∨
        ((∀ chosen, ¬ FirstAccepting alternatives value chosen) ∧
          structural resourceType (.union label alternatives) value =
            ⟨[], .error (.unresolvedUnion resourceType
              (Schema.union label alternatives).displayName
              (.noAlternative value.kind))⟩))) := by
  cases raw : rawExpression? value with
  | some text =>
      exact .inl ⟨text, (rawExpression?_eq_some_iff value text).mp raw, by
        simp only [structural, raw]⟩
  | none =>
      refine .inr ⟨?_, ?_⟩
      · intro text same
        rw [(rawExpression?_eq_some_iff value text).mpr same] at raw
        cases raw
      · cases found : alternatives.find? fun alternative => accepts alternative value with
        | some chosen =>
            refine .inl ⟨chosen, (find?_accepts_eq_some_iff _ _ _).mp found, ?_⟩
            simp only [structural, raw, chooseAlternative?, found]
        | none =>
            refine .inr ⟨?_, ?_⟩
            · intro chosen first
              rw [(find?_accepts_eq_some_iff _ _ _).mpr first] at found
              cases found
            · simp only [structural, raw, chooseAlternative?, found]

end Resolver
end Stanza
