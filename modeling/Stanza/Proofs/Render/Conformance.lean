import Stanza.Proofs.Render.Steps

set_option autoImplicit false

/-!
Conformance of values to schemas, and its agreement with rendering: with the structural
resolver, a value is rendered exactly when it conforms to its schema. Neither the options
nor the location decide anything, and the granted nesting is always enough.
-/

namespace Stanza

open Render

/--
A value conforms to a schema that stands as an alternative directly inside `unions` unions.
Null members count as absent, and fields that are required may be missing. A union takes a
raw expression, or whatever conforms to the first alternative that accepts the value; no
more than sixteen unions follow directly on each other.
-/
inductive Conforms : (unions : Nat) → Schema → Value → Prop
  | string {unions : Nat} {label : Label} (text : String) :
      Conforms unions (.scalar label .string) (.string text)
  | boolean {unions : Nat} {label : Label} (value : Value) :
      Conforms unions (.scalar label .boolean) value
  | number {unions : Nat} {label : Label} (value : Value) :
      Conforms unions (.scalar label .number) value
  | list {unions : Nat} {label : Label} {element : Schema} {items : List Value}
      (each : ∀ item ∈ items, Conforms 0 element item) :
      Conforms unions (.list label element) (.list items)
  | dictionary {unions : Nat} {label : Label} {element : Schema}
      {members : List (String × Value)}
      (each : ∀ member ∈ members, member.2.isNull = false → Conforms 0 element member.2) :
      Conforms unions (.dictionary label element) (.object members)
  | record {unions : Nat} {label : Label} {fields : List (Field Schema)}
      {members : List (String × Value)}
      (declared : ∀ member ∈ members, member.2.isNull = false →
        ∃ schema, Field.find? fields member.1 = some schema)
      (each : ∀ member ∈ members, member.2.isNull = false →
        ∀ schema, Field.find? fields member.1 = some schema → Conforms 0 schema member.2) :
      Conforms unions (.record label fields) (.object members)
  | expression {unions : Nat} {label : Label} {alternatives : List Schema}
      (few : unions < 16) (text : String) :
      Conforms unions (.union label alternatives) (.object [("$expr", .string text)])
  | alternative {unions : Nat} {label : Label} {alternatives : List Schema} {value : Value}
      {chosen : Schema} (few : unions < 16)
      (first : Resolver.FirstAccepting alternatives value chosen)
      (inner : Conforms (unions + 1) chosen value) :
      Conforms unions (.union label alternatives) value

namespace Conforms

variable {unions : Nat} {label : Label} {value : Value}

theorem string_iff :
    Conforms unions (.scalar label .string) value ↔ ∃ text, value = .string text := by
  constructor
  · rintro ⟨⟩
    exact ⟨_, rfl⟩
  · rintro ⟨text, rfl⟩
    exact .string text

theorem list_iff {element : Schema} :
    Conforms unions (.list label element) value ↔
      ∃ items, value = .list items ∧ ∀ item ∈ items, Conforms 0 element item := by
  constructor
  · rintro ⟨⟩
    exact ⟨_, rfl, by assumption⟩
  · rintro ⟨items, rfl, each⟩
    exact .list each

/-- The rule of records and dictionaries alike, by the schemas of the members. -/
def Members (schemas : MemberSchemas) (members : List (String × Value)) : Prop :=
  ∀ member ∈ present members, ∃ schema,
    schemas.find? member.1 = some schema ∧ Conforms 0 schema member.2

theorem dictionary_iff {element : Schema} :
    Conforms unions (.dictionary label element) value ↔
      ∃ members, value = .object members ∧ Members (.uniform element) members := by
  constructor
  · intro conforms
    cases conforms with
    | @dictionary _ _ _ members each =>
        refine ⟨members, rfl, ?_⟩
        intro member isPresent
        obtain ⟨inside, notNull⟩ := mem_present.mp isPresent
        exact ⟨element, rfl, each member inside notNull⟩
  · rintro ⟨members, rfl, each⟩
    refine .dictionary ?_
    intro member inside notNull
    obtain ⟨schema, found, conforms⟩ := each member (mem_present.mpr ⟨inside, notNull⟩)
    cases found
    exact conforms

theorem record_iff {fields : List (Field Schema)} :
    Conforms unions (.record label fields) value ↔
      ∃ members, value = .object members ∧ Members (.declared fields) members := by
  constructor
  · intro conforms
    cases conforms with
    | @record _ _ _ members declared each =>
        refine ⟨members, rfl, ?_⟩
        intro member isPresent
        obtain ⟨inside, notNull⟩ := mem_present.mp isPresent
        obtain ⟨schema, found⟩ := declared member inside notNull
        exact ⟨schema, found, each member inside notNull schema found⟩
  · rintro ⟨members, rfl, each⟩
    refine .record ?_ ?_
    · intro member inside notNull
      obtain ⟨schema, found, _⟩ := each member (mem_present.mpr ⟨inside, notNull⟩)
      exact ⟨schema, found⟩
    · intro member inside notNull schema found
      obtain ⟨other, otherFound, conforms⟩ := each member (mem_present.mpr ⟨inside, notNull⟩)
      cases otherFound.symm.trans found
      exact conforms

theorem union_iff {alternatives : List Schema} :
    Conforms unions (.union label alternatives) value ↔
      unions < 16 ∧ ((∃ text, value = Resolver.expression text) ∨
        ∃ chosen, Resolver.FirstAccepting alternatives value chosen ∧
          Conforms (unions + 1) chosen value) := by
  constructor
  · intro conforms
    cases conforms with
    | expression few text => exact ⟨few, .inl ⟨text, rfl⟩⟩
    | alternative few first inner => exact ⟨few, .inr ⟨_, first, inner⟩⟩
  · rintro ⟨few, ⟨text, rfl⟩ | ⟨chosen, first, inner⟩⟩
    · exact .expression few text
    · exact .alternative few first inner

end Conforms

/-! ### Rendering decides conformance -/

/-- Rendering by `child` succeeds on exactly the values that conform to a schema. -/
def Decides (child : Child) (schema : Schema) : Prop :=
  ∀ value level location depth,
    Succeeds (child schema value level location depth) ↔ Conforms depth schema value

section Parts

variable {child : Child} {nesting : Nat}

theorem succeeds_renderList_iff {element : Schema} (decides : Decides child element)
    (value : Value) (level : Nat) (location : Location) :
    Succeeds (renderList child element value level location) ↔
      ∃ items, value = .list items ∧ ∀ item ∈ items, Conforms 0 element item := by
  cases isList : value.asList? with
  | none => simp [renderList, isList, mismatch, Value.asList?_eq_none_iff.mp isList]
  | some items =>
      have each (index : Nat) (item : Value) :
          Succeeds (child element item (level + 1) (location.index index) 0) ↔
            Conforms 0 element item := decides item _ _ 0
      cases Value.asList?_eq_some_iff.mp isList
      simp only [renderList, Value.asList?, succeeds_bind_pure_iff,
        succeeds_forEachFrom_iff each, Value.list.injEq, exists_eq_left']

/-- Whether a member becomes an attribute, a block or repeated blocks, the same values of it
are taken. -/
theorem succeeds_renderMember_iff
    (decides : ∀ schema : Schema, schema.height ≤ nesting → Decides child schema)
    (quoted : Bool) (width level : Nat) (location : Location) (member : Member)
    (low : member.schema.height ≤ nesting) :
    Succeeds (renderMember child quoted width level location member) ↔
      Conforms 0 member.schema member.value := by
  rcases Schema.blockSchema?_cases member.schema with
    ⟨_, isBlock⟩ | ⟨block, repeated, isRepeated⟩ | ⟨_, _, isAttribute⟩
  · simp only [renderMember, isBlock, succeeds_bind_pure_iff]
    exact decides member.schema low _ _ _ 0
  · simp only [renderMember, isRepeated]
    obtain ⟨key, value, schema⟩ := member
    cases repeated with
    | @list label _ unmarked marked =>
        have lower : block.height ≤ nesting := by
          simp only [Schema.height] at low
          omega
        have each (index : Nat) (item : Value) :
            Succeeds (do
              let body ← child block item level ((location.key key).index index) 0
              pure (blockEntry level key body)) ↔ Conforms 0 block item :=
          (succeeds_bind_pure_iff _).trans (decides block lower item _ _ 0)
        rw [Conforms.list_iff]
        cases isList : value.asList? with
        | none => simp [mismatch, Value.asList?_eq_none_iff.mp isList]
        | some items =>
            cases Value.asList?_eq_some_iff.mp isList
            simp only [succeeds_forEachFrom_iff each, Value.list.injEq, exists_eq_left']
  · simp only [renderMember, isAttribute, succeeds_bind_pure_iff]
    exact decides member.schema low _ _ _ 0

theorem succeeds_membersOf_iff (schemas : MemberSchemas) (location : Location)
    (members : List (String × Value)) :
    Succeeds (membersOf schemas location members) ↔
      ∀ member ∈ present members, ∃ schema, schemas.find? member.1 = some schema := by
  unfold membersOf
  rw [succeeds_mapM_iff]
  refine forall₂_congr ?_
  intro member _
  cases schemas.find? member.1 <;> simp

theorem succeeds_renderObject_iff
    (decides : ∀ schema : Schema, schema.height ≤ nesting → Decides child schema)
    (options : RenderOptions) (whole : Schema) (schemas : MemberSchemas)
    (low : ∀ key schema, schemas.find? key = some schema → schema.height ≤ nesting)
    (value : Value) (level : Nat) (location : Location) :
    Succeeds (renderObject child options whole schemas value level location) ↔
      ∃ members, value = .object members ∧ Conforms.Members schemas members := by
  cases isObject : value.asObject? with
  | none => simp [renderObject, isObject, mismatch, Value.asObject?_eq_none_iff.mp isObject]
  | some all =>
      cases Value.asObject?_eq_some_iff.mp isObject
      have body (found : List Member)
          (pairs : membersOf schemas location all = .ok found) (member : Member)
          (inside : member ∈ found) :
          Succeeds (renderMember child schemas.quoteKeys (keyWidth schemas.quoteKeys found)
            (level + 1) location member) ↔ Conforms 0 member.schema member.value := by
        obtain ⟨source, _, _, _, isSchema⟩ :=
          exists_left_of_mem ((membersOf_eq_ok_iff _ _ _ _).mp pairs) inside
        exact succeeds_renderMember_iff decides _ _ _ _ member (low _ _ isSchema)
      simp only [renderObject, Value.asObject?, succeeds_bind_iff, Value.object.injEq,
        exists_eq_left']
      constructor
      · rintro ⟨found, foundIs, groups, groupsAre, _⟩ source isPresent
        obtain ⟨member, inside, _, isValue, isSchema⟩ :=
          exists_right_of_mem ((membersOf_eq_ok_iff _ _ _ _).mp foundIs) isPresent
        have rendered := (succeeds_mapM_iff _ _).mp ⟨groups, groupsAre⟩ member inside
        exact ⟨member.schema, isSchema, isValue ▸ (body found foundIs member inside).mp rendered⟩
      · intro conforms
        obtain ⟨found, foundIs⟩ := (succeeds_membersOf_iff schemas location all).mpr
          fun member isPresent => (conforms member isPresent).imp fun _ both => both.1
        refine ⟨found, foundIs, ?_⟩
        have each : ∀ member ∈ found, Succeeds (renderMember child schemas.quoteKeys
            (keyWidth schemas.quoteKeys found) (level + 1) location member) := by
          intro member inside
          obtain ⟨source, isPresent, _, isValue, isSchema⟩ :=
            exists_left_of_mem ((membersOf_eq_ok_iff _ _ _ _).mp foundIs) inside
          obtain ⟨schema, schemaIs, inner⟩ := conforms source isPresent
          cases schemaIs.symm.trans isSchema
          exact (body found foundIs member inside).mpr (isValue ▸ inner)
        obtain ⟨groups, groupsAre⟩ := (succeeds_mapM_iff _ _).mpr each
        exact ⟨groups, groupsAre, _, rfl⟩

theorem succeeds_renderUnion_iff {label : Label} {alternatives : List Schema}
    (decides : ∀ alternative ∈ alternatives, Decides child alternative)
    (resourceType : String) (value : Value) (level : Nat) (location : Location) (depth : Nat) :
    Succeeds (renderUnion child Resolver.structural resourceType (.union label alternatives)
        value level location depth) ↔
      Conforms depth (.union label alternatives) value := by
  rw [Conforms.union_iff]
  by_cases few : depth < 16
  · have notDeep : ¬ resolutionLimit ≤ depth := Nat.not_le.mpr few
    rcases Resolver.structural_union resourceType label alternatives value with
      ⟨text, isExpression, answer⟩ | ⟨notExpression, ⟨chosen, first, answer⟩ | ⟨none, answer⟩⟩
    · simp only [renderUnion, if_neg notDeep, answer, succeeds_ok, true_iff]
      exact ⟨few, .inl ⟨text, isExpression⟩⟩
    · simp only [renderUnion, if_neg notDeep, answer, succeeds_bind_pure_iff]
      rw [decides chosen first.mem value level location (depth + 1)]
      constructor
      · intro inner
        exact ⟨few, .inr ⟨chosen, first, inner⟩⟩
      · rintro ⟨_, ⟨text, isExpression⟩ | ⟨other, otherFirst, inner⟩⟩
        · exact absurd isExpression (notExpression text)
        · exact otherFirst.unique first ▸ inner
    · simp only [renderUnion, if_neg notDeep, answer, not_succeeds_error, false_iff]
      rintro ⟨_, ⟨text, isExpression⟩ | ⟨other, otherFirst, _⟩⟩
      · exact notExpression text isExpression
      · exact none other otherFirst
  · have deep : resolutionLimit ≤ depth := Nat.not_lt.mp few
    simp [renderUnion, deep, few]

end Parts

/-- As long as no schema on the way is out of reach, rendering decides conformance; by
induction on the nesting that is granted. -/
theorem renderNode_decides (renderer : Renderer)
    (structural : renderer.resolver = Resolver.structural) (resourceType : String)
    (nesting : Nat) :
    ∀ schema : Schema, schema.height ≤ nesting →
      Decides (renderer.renderNode resourceType nesting) schema := by
  induction nesting with
  | zero =>
      intro schema low
      exact absurd schema.height_pos (by omega)
  | succ nesting ih =>
      intro schema low value level location depth
      cases schema with
      | scalar label kind =>
          cases kind with
          | string =>
              rw [Renderer.renderNode_string, Conforms.string_iff]
              cases value <;> simp [Value.asString?, mismatch]
          | boolean => simp [Conforms.boolean]
          | number => simp [Conforms.number]
      | list label element =>
          simp only [Schema.height] at low
          rw [Renderer.renderNode_list, Conforms.list_iff]
          exact succeeds_renderList_iff (ih element (by omega)) value level location
      | dictionary label element =>
          simp only [Schema.height] at low
          rw [Renderer.renderNode_dictionary, Conforms.dictionary_iff]
          refine succeeds_renderObject_iff ih _ _ _ ?_ value level location
          intro key schema found
          cases found
          omega
      | record label fields =>
          simp only [Schema.height] at low
          rw [Renderer.renderNode_record, Conforms.record_iff]
          refine succeeds_renderObject_iff ih _ _ _ ?_ value level location
          intro key schema found
          obtain ⟨field, inside, _, rfl⟩ := Field.mem_of_find? found
          have bound := Schema.height_le_heightOfFields inside
          omega
      | union label alternatives =>
          simp only [Schema.height] at low
          rw [Renderer.renderNode_union, structural]
          refine succeeds_renderUnion_iff ?_ resourceType value level location depth
          intro alternative inside
          have bound := Schema.height_le_heightOfAll inside
          exact ih alternative (by omega)

theorem renderAt_succeeds_iff_conforms (options : RenderOptions) (reach : Nat)
    (resourceType : String) (schema : Schema) (value : Value) (location : Location) :
    (∃ rendered, Renderer.renderAt ⟨Resolver.structural, options, reach⟩ resourceType schema
        value location = .ok rendered) ↔
      Conforms 0 schema value :=
  renderNode_decides ⟨Resolver.structural, options, reach⟩ rfl resourceType
    (schema.height + reach) schema (by omega) value 0 location 0

end Stanza
