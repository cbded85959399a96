import Stanza.Proofs.Render.Nesting

set_option autoImplicit false

/-!
Schemas with one open place. Two schemas that are elaborated alike where a rendering starts,
and that alternatives are chosen by alike, can be exchanged at any place that is not itself
an alternative of a union.
-/

namespace Stanza

open Render

/-- A schema with one place left open. -/
inductive SchemaContext where
  | hole
  | list (label : Label) (inner : SchemaContext)
  | dictionary (label : Label) (inner : SchemaContext)
  | field (label : Label) (before : List (Field Schema)) (name : String) (required : Bool)
      (inner : SchemaContext) (after : List (Field Schema))
  | alternative (label : Label) (before : List Schema) (inner : SchemaContext)
      (after : List Schema)

namespace SchemaContext

def fill (schema : Schema) : SchemaContext → Schema
  | .hole => schema
  | .list label inner => .list label (inner.fill schema)
  | .dictionary label inner => .dictionary label (inner.fill schema)
  | .field label before name required inner after =>
      .record label (before ++ ⟨name, required, inner.fill schema⟩ :: after)
  | .alternative label before inner after =>
      .union label (before ++ inner.fill schema :: after)

/-- Whether the open place is itself an alternative of a union. -/
def isAlternative : SchemaContext → Bool
  | .hole => false
  | .list _ inner => inner.isAlternative
  | .dictionary _ inner => inner.isAlternative
  | .field _ _ _ _ inner _ => inner.isAlternative
  | .alternative _ _ .hole _ => true
  | .alternative _ _ inner _ => inner.isAlternative

theorem alternative_of_isAlternative_eq_false {label : Label} {before after : List Schema}
    {inner : SchemaContext}
    (apart : (SchemaContext.alternative label before inner after).isAlternative = false) :
    inner ≠ .hole ∧ inner.isAlternative = false := by
  cases inner with
  | hole => cases apart
  | list | dictionary | field | alternative => exact ⟨nofun, apart⟩

end SchemaContext

/-! ### Members under other schemas -/

theorem Field.find?_middle {α : Type} (before after : List (Field α)) (field : Field α)
    (key : String) :
    Field.find? (before ++ field :: after) key =
      (Field.find? before key).or
        (if field.name = key then some field.schema else Field.find? after key) := by
  simp only [Field.find?, List.find?_append, List.find?_cons]
  cases before.find? fun field => field.name = key with
  | some found => rfl
  | none => by_cases named : field.name = key <;> simp [named]

/-- When each schema of a member changes by its name, the members are found as before. -/
theorem membersOf_redeclare {schemas other : MemberSchemas} {change : String → Schema → Schema}
    (redeclared : ∀ key, other.find? key = (schemas.find? key).map (change key))
    (location : Location) (members : List (String × Value)) :
    membersOf other location members =
      (membersOf schemas location members).map
        (List.map fun member => { member with schema := change member.key member.schema }) := by
  apply mapM_eq_map_mapM
  intro member _
  rw [redeclared]
  cases schemas.find? member.1 <;> rfl

namespace Outline

theorem elaborateList_congr_element {child : Elaborator} {element other : Schema}
    (same : ∀ value location, child element value location 0 = child other value location 0) :
    elaborateList child element = elaborateList child other := by
  funext value location
  simp only [elaborateList, same]

theorem elaborateObject_redeclare {child : Elaborator} {schema another : Schema}
    (sameKind : another.kind = schema.kind) (sameMarker : another.marker = schema.marker)
    (schemas other : MemberSchemas) (sameQuotes : other.quoteKeys = schemas.quoteKeys)
    (change : String → Schema → Schema)
    (redeclared : ∀ key, other.find? key = (schemas.find? key).map (change key))
    (each : ∀ key inner value location, schemas.find? key = some inner →
      elaborateMember child schemas.quoteKeys location ⟨key, value, change key inner⟩ =
        elaborateMember child schemas.quoteKeys location ⟨key, value, inner⟩)
    (value : Value) (location : Location) :
    elaborateObject child another other value location =
      elaborateObject child schema schemas value location := by
  unfold elaborateObject
  cases value.asObject? with
  | none => simp only [sameKind]
  | some all =>
      simp only [membersOf_redeclare redeclared, sameMarker, sameQuotes]
      cases found : membersOf schemas location all with
      | error error => rfl
      | ok members =>
          have parts : (members.map fun member =>
              { member with schema := change member.key member.schema }).mapM
                (elaborateMember child schemas.quoteKeys location) =
              members.mapM (elaborateMember child schemas.quoteKeys location) := by
            have sameEach : ∀ member ∈ members,
                elaborateMember child schemas.quoteKeys location
                    { member with schema := change member.key member.schema } =
                  (elaborateMember child schemas.quoteKeys location member).map id := by
              intro member inside
              obtain ⟨_, _, isKey, _, isSchema⟩ :=
                exists_left_of_mem ((membersOf_eq_ok_iff _ _ _ _).mp found) inside
              rw [Except.map_id]
              exact each member.key member.schema member.value location (isKey ▸ isSchema)
            rw [List.mapM_map]
            refine (mapM_eq_map_mapM sameEach).trans ?_
            rw [List.map_id_fun, Except.map_id]
            rfl
          simp only [Except.map, bind, Except.bind, parts]

end Outline

/-! ### Schemas that can be exchanged -/

/-- Neither the place of a value nor its kind tells the two schemas apart. -/
structure Interchangeable (left right : Schema) : Prop where
  marker : left.marker = right.marker
  leftSingle : ∀ block, ¬ Schema.RepeatsBlock left block
  rightSingle : ∀ block, ¬ Schema.RepeatsBlock right block
  accepts : ∀ value, Resolver.accepts left value = Resolver.accepts right value
  elaborated : ∀ resourceType nesting value location, left.height ≤ nesting →
    right.height ≤ nesting →
    Outline.elaborate Resolver.structural resourceType nesting left value location 0 =
      Outline.elaborate Resolver.structural resourceType nesting right value location 0

namespace Resolver

theorem someAccepts_eq_any (alternatives : List Schema) (value : Value) :
    someAccepts alternatives value =
      alternatives.any fun alternative => accepts alternative value := by
  induction alternatives with
  | nil => rfl
  | cons alternative rest ih => rw [someAccepts, List.any_cons, ih]

theorem accepts_union (label : Label) (alternatives : List Schema) (value : Value) :
    accepts (.union label alternatives) value =
      alternatives.any fun alternative => accepts alternative value := by
  rw [← someAccepts_eq_any]
  cases value <;> rfl

/-- A record accepts by the names of its fields, not by their schemas. -/
theorem fieldsAccept_middle (before after : List (Field Schema)) (name : String)
    (required : Bool) (left right : Schema) (members : List (String × Value)) :
    fieldsAccept (before ++ ⟨name, required, left⟩ :: after) members =
      fieldsAccept (before ++ ⟨name, required, right⟩ :: after) members := by
  have declared (key : String) :
      (Field.find? (before ++ ⟨name, required, left⟩ :: after) key).isSome =
        (Field.find? (before ++ ⟨name, required, right⟩ :: after) key).isSome := by
    rw [Field.find?_middle, Field.find?_middle]
    by_cases named : name = key <;> simp [named]
  simp only [fieldsAccept, declared, List.filter_append, List.filter_cons, List.all_append]
  cases required <;> rfl

end Resolver

namespace Interchangeable

variable {left right : Schema} (same : Interchangeable left right)

include same

theorem accepts_fill (context : SchemaContext) (value : Value) :
    Resolver.accepts (context.fill left) value = Resolver.accepts (context.fill right) value := by
  induction context with
  | hole => exact same.accepts value
  | list label inner => cases value <;> rfl
  | dictionary label inner => cases value <;> rfl
  | field label before name required inner after ih =>
      cases value with
      | object members => exact Resolver.fieldsAccept_middle _ _ _ _ _ _ members
      | null | bool | number | string | list => rfl
  | alternative label before inner after ih =>
      simp only [SchemaContext.fill, Resolver.accepts_union, List.any_append, List.any_cons, ih]

theorem marker_fill (context : SchemaContext) :
    (context.fill left).marker = (context.fill right).marker := by
  cases context with
  | hole => exact same.marker
  | list | dictionary | field | alternative => rfl

/-- A filled context repeats blocks only as a list whose element is filled. -/
theorem blockSchema?_fill (context : SchemaContext) :
    ((context.fill left).blockSchema? = some (context.fill left, false) ∧
      (context.fill right).blockSchema? = some (context.fill right, false)) ∨
    (∃ label inner, context = .list label inner ∧
      (context.fill left).blockSchema? = some (inner.fill left, true) ∧
      (context.fill right).blockSchema? = some (inner.fill right, true)) ∨
    ((context.fill left).blockSchema? = none ∧ (context.fill right).blockSchema? = none) := by
  have sameMarker := same.marker_fill context
  by_cases marked : (context.fill left).marker = .block
  · exact .inl ⟨Schema.blockSchema?_of_block marked,
      Schema.blockSchema?_of_block (sameMarker ▸ marked)⟩
  · have unmarked : (context.fill right).marker ≠ .block := sameMarker ▸ marked
    cases context with
    | hole =>
        exact .inr (.inr ⟨Schema.blockSchema?_of_attribute marked same.leftSingle,
          Schema.blockSchema?_of_attribute unmarked same.rightSingle⟩)
    | list label inner =>
        by_cases block : (inner.fill left).marker = .block
        · exact .inr (.inl ⟨label, inner, rfl,
            Schema.blockSchema?_of_repeatsBlock (.list marked block),
            Schema.blockSchema?_of_repeatsBlock
              (.list unmarked (same.marker_fill inner ▸ block))⟩)
        · refine .inr (.inr ⟨Schema.blockSchema?_of_attribute marked ?_,
            Schema.blockSchema?_of_attribute unmarked ?_⟩)
          · rintro _ ⟨_, elementMarked⟩
            exact block elementMarked
          · rintro _ ⟨_, elementMarked⟩
            exact block ((same.marker_fill inner).trans elementMarked)
    | dictionary | field | alternative =>
        exact .inr (.inr ⟨Schema.blockSchema?_of_attribute marked (fun _ => nofun),
          Schema.blockSchema?_of_attribute unmarked (fun _ => nofun)⟩)

/-! ### Filled contexts -/

/-- With this nesting the two fillings of a context are elaborated alike. At the open place
itself this is known of the start of a value only. -/
def Alike (left right : Schema) (resourceType : String) (nesting : Nat) : Prop :=
  ∀ context : SchemaContext, context.isAlternative = false →
    (context.fill left).height ≤ nesting → (context.fill right).height ≤ nesting →
    ∀ value location depth, (context = .hole → depth = 0) →
      Outline.elaborate Resolver.structural resourceType nesting (context.fill left) value
          location depth =
        Outline.elaborate Resolver.structural resourceType nesting (context.fill right) value
          location depth

variable {resourceType : String} {nesting : Nat} (alike : Alike left right resourceType nesting)
  {context : SchemaContext} (apart : context.isAlternative = false)

include alike apart

theorem elaborateMember_fill (lowLeft : (context.fill left).height ≤ nesting)
    (lowRight : (context.fill right).height ≤ nesting) (quoted : Bool) (location : Location)
    (key : String) (value : Value) :
    Outline.elaborateMember (Outline.elaborate Resolver.structural resourceType nesting) quoted
        location ⟨key, value, context.fill right⟩ =
      Outline.elaborateMember (Outline.elaborate Resolver.structural resourceType nesting) quoted
        location ⟨key, value, context.fill left⟩ := by
  have here (place : Location) := alike context apart lowLeft lowRight value place 0 fun _ => rfl
  rcases same.blockSchema?_fill context with
    ⟨isLeft, isRight⟩ | ⟨label, inner, rfl, isLeft, isRight⟩ | ⟨isLeft, isRight⟩
  · simp only [Outline.elaborateMember, isLeft, isRight, here]
  · simp only [SchemaContext.fill, Schema.height] at lowLeft lowRight
    have items (item : Value) (place : Location) := alike inner apart (by omega) (by omega) item
      place 0 fun _ => rfl
    simp only [Outline.elaborateMember, isLeft, isRight, items]
  · simp only [Outline.elaborateMember, isLeft, isRight, here]

omit alike apart

omit alike apart

/-- The chosen alternative is the same, or the filled one on either side. -/
theorem elaborateUnion_fill (context : SchemaContext) {child : Elaborator} {value : Value}
    {location : Location} {depth : Nat}
    (there : child (context.fill left) value location (depth + 1) =
      child (context.fill right) value location (depth + 1))
    (resourceType : String) (label : Label) (before after : List Schema) :
    Outline.elaborateUnion child Resolver.structural resourceType
        (.union label (before ++ context.fill left :: after)) value location depth =
      Outline.elaborateUnion child Resolver.structural resourceType
        (.union label (before ++ context.fill right :: after)) value location depth := by
  unfold Outline.elaborateUnion Resolver.structural
  cases Resolver.rawExpression? value with
  | some text => rfl
  | none =>
      simp only [Resolver.chooseAlternative?, List.find?_append, List.find?_cons,
        ← same.accepts_fill context]
      cases before.find? fun alternative => Resolver.accepts alternative value with
      | some chosen => rfl
      | none =>
          cases Resolver.accepts (context.fill left) value with
          | true => simp only [Option.none_or, there]
          | false =>
              cases after.find? fun alternative => Resolver.accepts alternative value <;> rfl

/-- By induction on the nesting, for all contexts at once. -/
theorem alike_fill (resourceType : String) (nesting : Nat) :
    Alike left right resourceType nesting := by
  induction nesting with
  | zero =>
      intro context _ low
      have positive := (context.fill left).height_pos
      omega
  | succ nesting ih =>
      intro context apart lowLeft lowRight value location depth atStart
      cases context with
      | hole =>
          cases atStart rfl
          exact same.elaborated _ _ _ _ lowLeft lowRight
      | list label inner =>
          simp only [SchemaContext.fill, Schema.height] at lowLeft lowRight
          have elements (value : Value) (location : Location) := ih inner apart (by omega)
            (by omega) value location 0 fun _ => rfl
          exact congrFun (congrFun (Outline.elaborateList_congr_element elements) value) location
      | dictionary label inner =>
          have apartInner : inner.isAlternative = false := apart
          simp only [SchemaContext.fill, Schema.height] at lowLeft lowRight
          refine (Outline.elaborateObject_redeclare rfl rfl (.uniform (inner.fill left))
            (.uniform (inner.fill right)) rfl (fun _ _ => inner.fill right) (fun key => rfl) ?_
            value location).symm
          rintro key _ item place ⟨⟩
          exact same.elaborateMember_fill ih apartInner (by omega) (by omega) _ place key item
      | field label before name required inner after =>
          have apartInner : inner.isAlternative = false := apart
          have declared (schema : Schema) : (⟨name, required, schema⟩ : Field Schema) ∈
              before ++ ⟨name, required, schema⟩ :: after := by simp
          have memberLeft : (inner.fill left).height ≤ _ :=
            Schema.height_le_heightOfFields (declared (inner.fill left))
          have memberRight : (inner.fill right).height ≤ _ :=
            Schema.height_le_heightOfFields (declared (inner.fill right))
          simp only [SchemaContext.fill, Schema.height] at lowLeft lowRight
          have found (key : String) :
              Field.find? (before ++ ⟨name, required, inner.fill right⟩ :: after) key =
                (Field.find? (before ++ ⟨name, required, inner.fill left⟩ :: after) key).map
                  fun schema => if name = key ∧ Field.find? before key = none then
                    inner.fill right else schema := by
            simp only [Field.find?_middle]
            cases Field.find? before key with
            | some schema => simp
            | none => by_cases named : name = key <;> simp [named]
          refine (Outline.elaborateObject_redeclare rfl rfl
            (.declared (before ++ ⟨name, required, inner.fill left⟩ :: after))
            (.declared (before ++ ⟨name, required, inner.fill right⟩ :: after)) rfl _ found ?_
            value location).symm
          intro key schema item place isSchema
          by_cases own : name = key ∧ Field.find? before key = none
          · rw [if_pos own]
            simp only [MemberSchemas.find?, Field.find?_middle, own.2, if_pos own.1,
              Option.none_or] at isSchema
            cases isSchema
            exact same.elaborateMember_fill ih apartInner (by omega) (by omega) _ place key item
          · rw [if_neg own]
      | alternative label before inner after =>
          obtain ⟨inside, apartInner⟩ := SchemaContext.alternative_of_isAlternative_eq_false apart
          have declared (schema : Schema) : schema ∈ before ++ schema :: after := by simp
          have memberLeft := Schema.height_le_heightOfAll (declared (inner.fill left))
          have memberRight := Schema.height_le_heightOfAll (declared (inner.fill right))
          simp only [SchemaContext.fill, Schema.height] at lowLeft lowRight
          have there := ih inner apartInner (by omega) (by omega) value location (depth + 1)
            fun isHole => absurd isHole inside
          exact same.elaborateUnion_fill inner there resourceType label before after

end Interchangeable
end Stanza
