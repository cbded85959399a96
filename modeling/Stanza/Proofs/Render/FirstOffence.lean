import Stanza.Proofs.Render.Offences

set_option autoImplicit false

/-!
Errors of rendering are offences of the value. With the structural resolver, rendering fails
exactly when the value offends somewhere, and what it reports is the first offence with the
location at which it stands.
-/

namespace Stanza

open Render

/-- The outcome tells the first offence, or there is none. -/
structure Locates {α : Type} (resourceType : String) (location : Location) (unions : Nat)
    (schema : Schema) (value : Value) (outcome : Except RenderError α) : Prop where
  clean : Succeeds outcome → Inoffensive resourceType location unions schema value
  located : ∀ error, outcome = .error error →
    FirstOffence resourceType location unions schema value error

namespace Locates

variable {α β : Type} {resourceType : String} {location : Location} {unions : Nat}
  {schema : Schema} {value : Value}

theorem bind_pure {outcome : Except RenderError α}
    (locates : Locates resourceType location unions schema value outcome) (last : α → β) :
    Locates resourceType location unions schema value
      (outcome >>= fun result => pure (last result)) := by
  constructor
  · intro succeeded
    exact locates.clean ((succeeds_bind_pure_iff last).mp succeeded)
  · intro error failed
    rcases bind_eq_error_iff.mp failed with here | ⟨_, _, impossible⟩
    · exact locates.located error here
    · cases impossible

theorem failed {rank : Nat} {error : RenderError}
    (offends : Offends resourceType location unions schema value rank error)
    (least : ∀ other another,
      Offends resourceType location unions schema value other another → rank ≤ other) :
    Locates resourceType location unions schema value (.error error : Except RenderError α) := by
  constructor
  · intro impossible
    exact absurd impossible (not_succeeds_error error)
  · intro other same
    cases same
    exact firstOffence_here offends least

theorem mismatch {kind : String} (demanded : schema.demandedKind? = some kind)
    (other : value.kind ≠ kind) :
    Locates resourceType location unions schema value
      (Render.mismatch location schema.kind value : Except RenderError α) :=
  failed (.shape demanded other) fun _ _ _ => Nat.zero_le _

theorem succeeded {result : α} (inoffensive :
      Inoffensive resourceType location unions schema value) :
    Locates resourceType location unions schema value (.ok result : Except RenderError α) := by
  constructor
  · intro _
    exact inoffensive
  · intro error impossible
    cases impossible

end Locates

theorem kind_ne_list {value : Value} (notList : value.asList? = none) : value.kind ≠ "list" := by
  cases value with
  | list => cases notList
  | null | bool | number | string | object => simp [Value.kind]

theorem kind_eq_string_iff {value : Value} :
    value.kind = "string" ↔ ∃ text, value.asString? = some text := by
  cases value <;> simp [Value.kind, Value.asString?]

theorem kind_ne_object {value : Value} (notObject : value.asObject? = none) :
    value.kind ≠ "object" := by
  cases value with
  | object => cases notObject
  | null | bool | number | string | list => simp [Value.kind]

section Pieces

variable {resourceType : String} {location : Location} {unions : Nat} {label : Label}

/-- A scalar has nothing inside and offends only by its kind. -/
theorem inoffensive_scalar {scalarKind : ScalarKind} {value : Value}
    (fits : ∀ kind, (Schema.scalar label scalarKind).demandedKind? = some kind →
      value.kind = kind) :
    Inoffensive resourceType location unions (.scalar label scalarKind) value := by
  refine inoffensive_of_parts ?_ ?_
  · intro rank error offends
    cases offends with
    | shape demanded other => exact other (fits _ demanded)
  · intro step below inner part enters
    cases enters with
    | member isObject => cases isObject

/-! ### Lists -/

theorem forEachFrom_eq_error {ε α β : Type} {handle : Nat → α → Except ε β} {index : Nat}
    {items : List α} {error : ε} (failed : forEachFrom handle index items = .error error) :
    ∃ position item, items[position]? = some item ∧
      handle (index + position) item = .error error ∧
      ∀ earlier other, earlier < position → items[earlier]? = some other →
        Succeeds (handle (index + earlier) other) := by
  induction items generalizing index with
  | nil => cases failed
  | cons head rest ih =>
      rw [forEachFrom] at failed
      rcases bind_eq_error_iff.mp failed with here | ⟨first, firstIs, later⟩
      · exact ⟨0, head, rfl, here, fun earlier _ before => absurd before (Nat.not_lt_zero _)⟩
      · rcases bind_eq_error_iff.mp later with inRest | ⟨_, _, impossible⟩
        · obtain ⟨position, item, present, failedThere, succeeded⟩ := ih inRest
          rw [Nat.add_right_comm] at failedThere
          refine ⟨position + 1, item, present, failedThere, ?_⟩
          intro earlier other before presentOther
          cases earlier with
          | zero =>
              cases presentOther
              exact ⟨first, firstIs⟩
          | succ earlier =>
              have there := succeeded earlier other (by omega) presentOther
              rw [Nat.add_right_comm] at there
              exact there
        · cases impossible

theorem succeeds_of_forEachFrom {ε α β : Type} {handle : Nat → α → Except ε β} {index : Nat}
    {items : List α} (handled : Succeeds (forEachFrom handle index items)) {position : Nat}
    {item : α} (present : items[position]? = some item) :
    Succeeds (handle (index + position) item) := by
  induction items generalizing index position with
  | nil => cases present
  | cons head rest ih =>
      rw [forEachFrom] at handled
      obtain ⟨first, firstIs, later⟩ := succeeds_bind_iff.mp handled
      cases position with
      | zero =>
          cases present
          exact ⟨first, firstIs⟩
      | succ position =>
          have there := ih ((succeeds_bind_pure_iff _).mp later) present
          rw [Nat.add_right_comm] at there
          exact there

theorem not_offends_list (element : Schema) (items : List Value) (rank : Nat)
    (error : RenderError) :
    ¬ Offends resourceType location unions (.list label element) (.list items) rank error := by
  intro offends
  cases offends with
  | shape demanded other =>
      cases demanded
      exact other rfl

theorem locates_elements {β : Type} {element : Schema} {handle : Nat → Value → Except RenderError β}
    (each : ∀ position item, Locates resourceType (location.index position) 0 element item
      (handle position item)) (items : List Value) :
    Locates resourceType location unions (.list label element) (.list items)
      (forEachFrom handle 0 items) := by
  constructor
  · intro succeeded
    refine inoffensive_of_parts (not_offends_list element items) ?_
    intro step below inner part enters
    cases enters with
    | element present =>
        have handled := succeeds_of_forEachFrom succeeded present
        rw [Nat.zero_add] at handled
        exact (each _ _).clean handled
  · intro error failed
    obtain ⟨position, item, present, failedThere, before⟩ := forEachFrom_eq_error failed
    rw [Nat.zero_add] at failedThere
    refine firstOffence_inside (not_offends_list element items) (.element present)
      ((each position item).located error failedThere) ?_
    intro turn unionsBefore schemaBefore partBefore enters earlier
    cases enters with
    | element presentBefore =>
        have handled := before _ _ earlier presentBefore
        rw [Nat.zero_add] at handled
        exact (each _ _).clean handled

theorem locates_renderList {child : Child} {element : Schema}
    (each : ∀ value level location, Locates resourceType location 0 element value
      (child element value level location 0))
    (value : Value) (level : Nat) :
    Locates resourceType location unions (.list label element) value
      (renderList child element value level location) := by
  cases isList : value.asList? with
  | none =>
      simp only [renderList, isList]
      exact Locates.mismatch rfl (kind_ne_list isList)
  | some items =>
      cases Value.asList?_eq_some_iff.mp isList
      exact (locates_elements (fun position item => each item _ _) items).bind_pure _

/-! ### Members -/

/-- What stands before a present member is present before it or null. -/
theorem exists_split_of_present {members front back : List (String × Value)}
    {member : String × Value} (split : present members = front ++ member :: back) :
    ∃ before after, members = before ++ member :: after ∧ present before = front ∧
      member.2.isNull = false := by
  obtain ⟨left, right, rfl, isFront, rest⟩ := List.filter_eq_append_iff.mp split
  obtain ⟨nulls, after, rfl, areNull, notNull, _⟩ := List.filter_eq_cons_iff.mp rest
  refine ⟨left ++ nulls, after, by rw [List.append_assoc], ?_, by simpa using notNull⟩
  have dropped : present nulls = [] := List.filter_eq_nil_iff.mpr areNull
  rw [present, List.filter_append, isFront, ← present, dropped, List.append_nil]

theorem mem_of_before {α : Type} {front back : List α} {item other : α} {position : Nat}
    (present : (front ++ item :: back)[position]? = some other)
    (before : position < front.length) : other ∈ front := by
  rw [List.getElem?_append_left before] at present
  exact List.mem_of_getElem? present

theorem getElem?_middle {α : Type} (front back : List α) (item : α) :
    (front ++ item :: back)[front.length]? = some item := by
  simp

/-- The schema of a member places it, whichever way it is laid out. -/
theorem locates_renderMember {child : Child} {nesting : Nat}
    (each : ∀ schema : Schema, schema.height ≤ nesting → ∀ value level location depth,
      Locates resourceType location depth schema value (child schema value level location depth))
    (quoted : Bool) (width level : Nat) (member : Member)
    (low : member.schema.height ≤ nesting) :
    Locates resourceType (location.key member.key) 0 member.schema member.value
      (renderMember child quoted width level location member) := by
  rcases Schema.blockSchema?_cases member.schema with
    ⟨_, isBlock⟩ | ⟨block, repeated, isRepeated⟩ | ⟨_, _, isAttribute⟩
  · simp only [renderMember, isBlock]
    exact (each member.schema low _ _ _ 0).bind_pure _
  · simp only [renderMember, isRepeated]
    obtain ⟨key, value, schema⟩ := member
    cases repeated with
    | @list label _ unmarked marked =>
        have lower : block.height ≤ nesting := by
          simp only [Schema.height] at low
          omega
        cases isList : value.asList? with
        | none => exact Locates.mismatch rfl (kind_ne_list isList)
        | some items =>
            cases Value.asList?_eq_some_iff.mp isList
            exact locates_elements (fun position item =>
              (each block lower item level _ 0).bind_pure _) items
  · simp only [renderMember, isAttribute]
    exact (each member.schema low _ _ _ 0).bind_pure _

section Members

variable {whole : Schema} {schemas : MemberSchemas}
  (isObject : memberSchemas? whole = some schemas)

include isObject

theorem demandedKind?_of_object : whole.demandedKind? = some "object" := by
  cases whole with
  | dictionary => rfl
  | record => rfl
  | scalar => cases isObject
  | list => cases isObject
  | union => cases isObject

theorem not_offends_object {members : List (String × Value)}
    (declared : ∀ member ∈ present members, ∃ inner, schemas.find? member.1 = some inner)
    (rank : Nat) (error : RenderError) :
    ¬ Offends resourceType location unions whole (.object members) rank error := by
  intro offends
  cases offends with
  | shape demanded other =>
      cases demanded.symm.trans (demandedKind?_of_object isObject)
      exact other rfl
  | undeclared at_position notNull unknown =>
      cases isObject
      obtain ⟨inner, found⟩ :=
        declared _ (mem_present.mpr ⟨List.mem_of_getElem? at_position, notNull⟩)
      cases unknown.symm.trans found
  | tooDeep => cases isObject
  | unresolved => cases isObject

/-- The first member that is not declared comes before everything inside the object. -/
theorem firstOffence_of_membersOf {members : List (String × Value)} {error : RenderError}
    (failed : membersOf schemas location members = .error error) :
    FirstOffence resourceType location unions whole (.object members) error := by
  obtain ⟨front, ⟨name, value⟩, back, split, declared, undeclared⟩ :=
    (mapM_eq_error_iff _ _ _).mp failed
  obtain ⟨before, after, rfl, rfl, notNull⟩ := exists_split_of_present split
  cases schemas with
  | uniform element => cases undeclared
  | declared fields =>
      cases found : Field.find? fields name with
      | some schema =>
          simp only [MemberSchemas.find?, found] at undeclared
          cases undeclared
      | none =>
          simp only [MemberSchemas.find?, found] at undeclared declared
          cases undeclared
          cases whole with
          | record label _ =>
              cases isObject
              refine firstOffence_here (.undeclared (getElem?_middle _ _ _) notNull found) ?_
              intro other another offends
              cases offends with
              | shape demanded differs =>
                  cases demanded
                  exact absurd rfl differs
              | undeclared presentOther notNullOther unknown =>
                  by_contra lower
                  have inside := mem_of_before presentOther (Nat.not_le.mp lower)
                  have found := declared _ (mem_present.mpr ⟨inside, notNullOther⟩)
                  rw [unknown] at found
                  exact not_succeeds_error _ found
          | dictionary => cases isObject
          | scalar => cases isObject
          | list => cases isObject
          | union => cases isObject

theorem locates_members {β : Type} {members : List (String × Value)} {found : List Member}
    {handle : Member → Except RenderError β}
    (pairs : List.Forall₂ (fun member entry => entry.key = member.1 ∧ entry.value = member.2 ∧
      schemas.find? member.1 = some entry.schema) (present members) found)
    (each : ∀ member ∈ found, Locates resourceType (location.key member.key) 0 member.schema
      member.value (handle member)) :
    Locates resourceType location unions whole (.object members) (found.mapM handle) := by
  have here (rank : Nat) (error : RenderError) :
      ¬ Offends resourceType location unions whole (.object members) rank error := by
    refine not_offends_object isObject ?_ rank error
    intro member inside
    obtain ⟨entry, _, _, _, isSchema⟩ := exists_right_of_mem pairs inside
    exact ⟨entry.schema, isSchema⟩
  constructor
  · intro succeeded
    refine inoffensive_of_parts here ?_
    intro step below inner part enters
    cases enters with
    | alternative => cases isObject
    | member isObjectAgain at_position notNull declared =>
        cases isObject.symm.trans isObjectAgain
        obtain ⟨entry, inside, isKey, isValue, isSchema⟩ := exists_right_of_mem pairs
          (mem_present.mpr ⟨List.mem_of_getElem? at_position, notNull⟩)
        cases declared.symm.trans isSchema
        have handled := (succeeds_mapM_iff _ _).mp succeeded entry inside
        have clean := (each entry inside).clean handled
        rw [isKey, isValue] at clean
        exact clean
  · intro error failed
    obtain ⟨front, entry, back, rfl, handled, failedThere⟩ := (mapM_eq_error_iff _ _ _).mp failed
    obtain ⟨sources, source, others, split, early, ⟨isKey, isValue, isSchema⟩⟩ :=
      exists_split_of_right pairs
    obtain ⟨before, after, rfl, rfl, notNull⟩ := exists_split_of_present split
    have first := (each entry (by simp)).located error failedThere
    rw [isKey, isValue] at first
    refine firstOffence_inside here
      (.member isObject (getElem?_middle before after source) notNull isSchema) first ?_
    intro turn unionsBefore schemaBefore partBefore enters earlier
    cases enters with
    | alternative => cases isObject
    | member isObjectAgain at_position notNullBefore declared =>
        cases isObject.symm.trans isObjectAgain
        obtain ⟨other, inside, isKeyOther, isValueOther, isSchemaOther⟩ :=
          exists_right_of_mem early
            (mem_present.mpr ⟨mem_of_before at_position earlier, notNullBefore⟩)
        cases declared.symm.trans isSchemaOther
        have clean := (each other (by simp [inside])).clean (handled other inside)
        rw [isKeyOther, isValueOther] at clean
        exact clean

theorem locates_renderObject {child : Child} {nesting : Nat}
    (each : ∀ schema : Schema, schema.height ≤ nesting → ∀ value level location depth,
      Locates resourceType location depth schema value (child schema value level location depth))
    (low : ∀ key schema, schemas.find? key = some schema → schema.height ≤ nesting)
    (options : RenderOptions) (value : Value) (level : Nat) :
    Locates resourceType location unions whole value
      (renderObject child options whole schemas value level location) := by
  cases isMembers : value.asObject? with
  | none =>
      simp only [renderObject, isMembers]
      exact Locates.mismatch (demandedKind?_of_object isObject) (kind_ne_object isMembers)
  | some all =>
      cases Value.asObject?_eq_some_iff.mp isMembers
      simp only [renderObject, Value.asObject?]
      cases foundIs : membersOf schemas location all with
      | error error =>
          constructor
          · intro impossible
            exact absurd impossible (not_succeeds_error error)
          · intro other same
            cases same
            exact firstOffence_of_membersOf isObject foundIs
      | ok found =>
          have pairs := (membersOf_eq_ok_iff _ _ _ _).mp foundIs
          exact (locates_members isObject pairs fun member inside => by
            obtain ⟨source, _, _, _, isSchema⟩ := exists_left_of_mem pairs inside
            exact locates_renderMember each _ _ _ member (low _ _ isSchema)).bind_pure _

end Members

end Pieces

/-! ### Unions -/

namespace Resolver

theorem not_firstAccepting_iff {alternatives : List Schema} {value : Value} :
    (∀ chosen, ¬ FirstAccepting alternatives value chosen) ↔
      ∀ alternative ∈ alternatives, accepts alternative value = false := by
  have asSearch : (∀ chosen, ¬ FirstAccepting alternatives value chosen) ↔
      (alternatives.find? fun alternative => accepts alternative value) = none := by
    simp only [← find?_accepts_eq_some_iff, Option.eq_none_iff_forall_ne_some, ne_eq]
  rw [asSearch, List.find?_eq_none]
  simp

end Resolver

theorem locates_renderUnion {resourceType : String} {location : Location} {label : Label}
    {alternatives : List Schema} {child : Child}
    (each : ∀ alternative ∈ alternatives, ∀ value level location depth,
      Locates resourceType location depth alternative value
        (child alternative value level location depth))
    (value : Value) (level depth : Nat) :
    Locates resourceType location depth (.union label alternatives) value
      (renderUnion child Resolver.structural resourceType (.union label alternatives) value level
        location depth) := by
  by_cases deep : resolutionLimit ≤ depth
  · simp only [renderUnion, if_pos deep]
    exact Locates.failed (.tooDeep deep) fun _ _ _ => Nat.zero_le _
  · simp only [renderUnion, if_neg deep]
    rcases Resolver.structural_union resourceType label alternatives value with
      ⟨text, isExpression, answer⟩ | ⟨plain, ⟨chosen, first, answer⟩ | ⟨refused, answer⟩⟩
    · simp only [answer]
      refine Locates.succeeded (inoffensive_of_parts ?_ ?_)
      · intro rank error offends
        cases offends with
        | shape demanded => cases demanded
        | tooDeep many => exact deep many
        | unresolved plain => exact plain text isExpression
      · intro step below inner part enters
        cases enters with
        | member isObject => cases isObject
        | alternative plain => exact absurd isExpression (plain text)
    · simp only [answer]
      have here (rank : Nat) (error : RenderError) : ¬ Offends resourceType location depth
          (.union label alternatives) value rank error := by
        intro offends
        cases offends with
        | shape demanded => cases demanded
        | tooDeep many => exact deep many
        | unresolved _ refused =>
            exact Resolver.not_firstAccepting_iff.mpr refused chosen first
      refine Locates.bind_pure ?_ _
      have locates := each chosen first.mem value level location (depth + 1)
      constructor
      · intro succeeded
        refine inoffensive_of_parts here ?_
        intro step below inner part enters
        cases enters with
        | member isObject => cases isObject
        | alternative _ again =>
            cases first.unique again
            exact locates.clean succeeded
      · intro error failed
        refine firstOffence_inside here (.alternative plain first)
          (locates.located error failed) ?_
        intro turn _ _ _ _ earlier
        exact absurd earlier (Nat.not_lt_zero _)
    · simp only [answer]
      refine Locates.failed (.unresolved plain (Resolver.not_firstAccepting_iff.mp refused)) ?_
      intro other another offends
      cases offends with
      | shape demanded => cases demanded
      | tooDeep many => exact absurd many deep
      | unresolved => exact Nat.le_refl 1

/-! ### Whole renderings -/

/-- By induction on the nesting, which is enough for the schema. -/
theorem renderNode_locates (renderer : Renderer)
    (structural : renderer.resolver = Resolver.structural) (resourceType : String)
    (nesting : Nat) :
    ∀ schema : Schema, schema.height ≤ nesting → ∀ value level location depth,
      Locates resourceType location depth schema value
        (renderer.renderNode resourceType nesting schema value level location depth) := by
  induction nesting with
  | zero =>
      intro schema low
      have positive := schema.height_pos
      omega
  | succ nesting ih =>
      intro schema low value level location depth
      cases schema with
      | scalar label kind =>
          cases kind with
          | string =>
              rw [Renderer.renderNode_string]
              cases isText : value.asString? with
              | none =>
                  refine Locates.mismatch rfl ?_
                  simp [kind_eq_string_iff, isText]
              | some text =>
                  refine Locates.succeeded (inoffensive_scalar ?_)
                  intro kind demanded
                  cases demanded
                  exact kind_eq_string_iff.mpr ⟨text, isText⟩
          | boolean => exact Locates.succeeded (inoffensive_scalar fun _ demanded => nomatch demanded)
          | number => exact Locates.succeeded (inoffensive_scalar fun _ demanded => nomatch demanded)
      | list label element =>
          simp only [Schema.height] at low
          rw [Renderer.renderNode_list]
          exact locates_renderList (fun value level location =>
            ih element (by omega) value level location 0) value level
      | dictionary label element =>
          simp only [Schema.height] at low
          rw [Renderer.renderNode_dictionary]
          refine locates_renderObject rfl ih ?_ renderer.options value level
          intro key schema found
          cases found
          omega
      | record label fields =>
          simp only [Schema.height] at low
          rw [Renderer.renderNode_record]
          refine locates_renderObject rfl ih ?_ renderer.options value level
          intro key schema found
          obtain ⟨field, inside, _, rfl⟩ := Field.mem_of_find? found
          have bound := Schema.height_le_heightOfFields inside
          omega
      | union label alternatives =>
          simp only [Schema.height] at low
          rw [Renderer.renderNode_union, structural]
          refine locates_renderUnion ?_ value level depth
          intro alternative inside
          have bound := Schema.height_le_heightOfAll inside
          exact ih alternative (by omega)

/--
With the structural resolver a rendering fails exactly when the value offends somewhere, and
the error is that of the first offence: at its location, with the kinds of the schema and of
the value that stand there.
-/
theorem renderAt_eq_error_iff_firstOffence (options : RenderOptions) (reach : Nat)
    (resourceType : String) (schema : Schema) (value : Value) (location : Location)
    (error : RenderError) :
    Renderer.renderAt ⟨Resolver.structural, options, reach⟩ resourceType schema value location =
        .error error ↔
      FirstOffence resourceType location 0 schema value error := by
  have locates := renderNode_locates ⟨Resolver.structural, options, reach⟩ rfl resourceType
    (schema.height + reach) schema (by omega) value 0 location 0
  constructor
  · exact locates.located error
  · intro first
    unfold Renderer.renderAt
    cases outcome : Renderer.renderNode ⟨Resolver.structural, options, reach⟩ resourceType
        (schema.height + reach) schema value 0 location 0 with
    | error other => rw [(locates.located other outcome).unique first]
    | ok rendered =>
        obtain ⟨steps, rank, offence, _⟩ := first
        exact absurd offence (locates.clean ⟨rendered, outcome⟩ steps rank error)

-- An undeclared member is met before a member of the wrong kind that stands in front of it.
example :
    Renderer.renderAt ⟨Resolver.structural, {}, 0⟩ "service"
        (.record {} [⟨"a", true, .scalar {} .string⟩])
        (.object [("a", .list []), ("b", .bool true)]) (.root "service") =
      .error (.unknownField (.root "service") "b") := rfl

end Stanza
