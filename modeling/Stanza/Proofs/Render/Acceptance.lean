import Stanza.Proofs.Render.Conformance
import Stanza.Proofs.Render.FirstOffence

set_option autoImplicit false

/-!
The shallow test of an alternative against rendering by it. A string, list, dictionary or
record accepts what rendering does not refuse at once, for the value itself; a record also
insists on its required fields, and on the names of null members, which rendering passes over.
-/

namespace Stanza

open Render

/-! ### Where errors stand -/

def RenderError.place? : RenderError → Option Location
  | .shapeMismatch location _ _ => some location
  | .unknownField location _ => some location
  | .resolution location _ => some location
  | .resolutionDepthExceeded location _ => some location
  | .nestingExhausted location => some location
  | .unresolvedUnion _ _ _ => none

/-- An error stands at a location whose text has at least so many characters. -/
def FailsFrom {α : Type} (length : Nat) (outcome : Except RenderError α) : Prop :=
  ∀ error, outcome = .error error →
    ∃ place, error.place? = some place ∧ length ≤ place.text.length

theorem Location.length_text_key (location : Location) (name : String) :
    (location.key name).text.length = location.text.length + 1 + name.length := by
  have point : ".".length = 1 := rfl
  simp only [text, String.length_append, point]

theorem Location.length_text_index (location : Location) (position : Nat) :
    location.text.length < (location.index position).text.length := by
  have bracket : "[".length = 1 := rfl
  simp only [text, String.length_append, bracket]
  omega

namespace FailsFrom

variable {α β : Type} {length : Nat}

theorem ok (result : α) : FailsFrom length (.ok result : Except RenderError α) := nofun

theorem at_place {error : RenderError} {place : Location} (isPlace : error.place? = some place)
    (long : length ≤ place.text.length) :
    FailsFrom length (.error error : Except RenderError α) := by
  intro other same
  cases same
  exact ⟨place, isPlace, long⟩

theorem mono {less : Nat} {outcome : Except RenderError α} (fails : FailsFrom length outcome)
    (fewer : less ≤ length) : FailsFrom less outcome := by
  intro error failed
  obtain ⟨place, isPlace, long⟩ := fails error failed
  exact ⟨place, isPlace, Nat.le_trans fewer long⟩

theorem bind {first : Except RenderError α} {next : α → Except RenderError β}
    (early : FailsFrom length first)
    (late : ∀ result, first = .ok result → FailsFrom length (next result)) :
    FailsFrom length (first >>= next) := by
  intro error failed
  rcases bind_eq_error_iff.mp failed with here | ⟨result, resultIs, there⟩
  · exact early error here
  · exact late result resultIs error there

theorem bind_pure {first : Except RenderError α} (early : FailsFrom length first)
    (last : α → β) : FailsFrom length (first >>= fun result => pure (last result)) :=
  early.bind fun _ _ => .ok _

theorem mapM {step : α → Except RenderError β} {items : List α}
    (each : ∀ item ∈ items, FailsFrom length (step item)) :
    FailsFrom length (items.mapM step) := by
  intro error failed
  obtain ⟨front, item, back, rfl, _, failedThere⟩ := (mapM_eq_error_iff _ _ _).mp failed
  exact each item (by simp) error failedThere

theorem forEachFrom {handle : Nat → α → Except RenderError β}
    (each : ∀ position item, FailsFrom length (handle position item)) (index : Nat)
    (items : List α) : FailsFrom length (forEachFrom handle index items) := by
  intro error failed
  obtain ⟨_, _, _, failedThere, _⟩ := forEachFrom_eq_error failed
  exact each _ _ error failedThere

end FailsFrom

/-- A way to render children reports no error above the location of the child. -/
def FailsBelow (child : Child) : Prop :=
  ∀ schema value level location depth,
    FailsFrom location.text.length (child schema value level location depth)

section Pieces

variable {child : Child} (below : FailsBelow child)

include below

theorem failsFrom_elements (schema : Schema) (items : List Value) (level : Nat)
    (location : Location) {β : Type} (last : Rendered → β) :
    FailsFrom (location.text.length + 1)
      (forEachFrom (fun index item => do
        let body ← child schema item level (location.index index) 0
        pure (last body)) 0 items) := by
  refine FailsFrom.forEachFrom ?_ 0 items
  intro position item
  exact ((below _ _ _ _ _).mono (location.length_text_index position)).bind_pure last

/-- An error inside a list stands at a longer location than the list. -/
theorem failsFrom_renderList (element : Schema) (items : List Value) (level : Nat)
    (location : Location) :
    FailsFrom (location.text.length + 1)
      (renderList child element (.list items) level location) := by
  refine FailsFrom.bind_pure (FailsFrom.forEachFrom ?_ 0 items) _
  intro position item
  exact (below _ _ _ _ _).mono (location.length_text_index position)

theorem failsFrom_renderMember (quoted : Bool) (width level : Nat) (location : Location)
    (member : Member) :
    FailsFrom (location.text.length + 1)
      (renderMember child quoted width level location member) := by
  have longer : location.text.length + 1 ≤ (location.key member.key).text.length := by
    rw [Location.length_text_key]
    omega
  rcases Schema.blockSchema?_cases member.schema with
    ⟨_, isBlock⟩ | ⟨block, _, isRepeated⟩ | ⟨_, _, isAttribute⟩
  · simp only [renderMember, isBlock]
    exact ((below _ _ _ _ _).mono longer).bind_pure _
  · simp only [renderMember, isRepeated]
    cases member.value.asList? with
    | none => exact .at_place rfl longer
    | some items =>
        exact (failsFrom_elements below block items level _ _).mono (by omega)
  · simp only [renderMember, isAttribute]
    exact ((below _ _ _ _ _).mono longer).bind_pure _

/-- Once all its members are known, an error of an object stands at a longer location. -/
theorem failsFrom_renderObject (options : RenderOptions) (schema : Schema)
    (schemas : MemberSchemas) (members : List (String × Value)) (level : Nat)
    (location : Location) (known : Succeeds (membersOf schemas location members)) :
    FailsFrom (location.text.length + 1)
      (renderObject child options schema schemas (.object members) level location) := by
  obtain ⟨found, foundIs⟩ := known
  simp only [renderObject, Value.asObject?, foundIs]
  refine (FailsFrom.ok found).bind ?_
  rintro _ ⟨⟩
  refine FailsFrom.bind (.mapM fun member _ => ?_) fun _ _ => .ok _
  exact failsFrom_renderMember below _ _ _ _ member

end Pieces

theorem membersOf_error {schemas : MemberSchemas} {location : Location}
    {members : List (String × Value)} {error : RenderError}
    (failed : membersOf schemas location members = .error error) :
    ∃ field, error = .unknownField location field := by
  obtain ⟨_, member, _, _, _, undeclared⟩ := (mapM_eq_error_iff _ _ _).mp failed
  cases found : schemas.find? member.1 with
  | none =>
      simp only [found] at undeclared
      exact ⟨member.1, (Except.error.inj undeclared).symm⟩
  | some schema => simp only [found, reduceCtorEq] at undeclared

theorem renderObject_unknown (child : Child) (options : RenderOptions) (schema : Schema)
    {schemas : MemberSchemas} {members : List (String × Value)} {location : Location}
    {error : RenderError} (failed : membersOf schemas location members = .error error)
    (level : Nat) :
    renderObject child options schema schemas (.object members) level location =
      .error error := by
  simp only [renderObject, Value.asObject?, failed, bind, Except.bind]

/-- Whatever the resolver, rendering reports no error above the value; by induction on the
nesting. -/
theorem renderNode_failsBelow (renderer : Renderer) (resourceType : String) (nesting : Nat) :
    FailsBelow (renderer.renderNode resourceType nesting) := by
  induction nesting with
  | zero => exact fun _ _ _ _ _ => .at_place rfl (Nat.le_refl _)
  | succ nesting ih =>
      intro schema value level location depth
      have object (schemas : MemberSchemas) : FailsFrom location.text.length
          (renderObject (renderer.renderNode resourceType nesting) renderer.options schema
            schemas value level location) := by
        cases isObject : value.asObject? with
        | none =>
            simp only [renderObject, isObject]
            exact .at_place rfl (Nat.le_refl _)
        | some members =>
            cases Value.asObject?_eq_some_iff.mp isObject
            cases known : membersOf schemas location members with
            | error error =>
                rw [renderObject_unknown _ _ _ known]
                obtain ⟨field, rfl⟩ := membersOf_error known
                exact .at_place rfl (Nat.le_refl _)
            | ok found =>
                exact (failsFrom_renderObject ih _ _ _ _ _ _ ⟨found, known⟩).mono (by omega)
      cases schema with
      | scalar label kind =>
          cases kind with
          | string =>
              rw [Renderer.renderNode_string]
              cases value.asString? with
              | none => exact .at_place rfl (Nat.le_refl _)
              | some text => exact .ok _
          | boolean => exact .ok _
          | number => exact .ok _
      | list label element =>
          rw [Renderer.renderNode_list]
          cases isList : value.asList? with
          | none =>
              simp only [renderList, isList]
              exact .at_place rfl (Nat.le_refl _)
          | some items =>
              cases Value.asList?_eq_some_iff.mp isList
              exact (failsFrom_renderList ih _ _ _ _).mono (by omega)
      | dictionary label element => exact object (.uniform element)
      | record label fields => exact object (.declared fields)
      | union label alternatives =>
          rw [Renderer.renderNode_union, renderUnion]
          split
          · exact .at_place rfl (Nat.le_refl _)
          · simp only
            split
            · exact .at_place rfl (Nat.le_refl _)
            · exact .ok _
            · exact (ih _ _ _ _ _).bind_pure _

/-! ### Refused at once -/

/-- The rendering ends with a mismatch or an unknown field at the value itself, going by the
texts of the locations. -/
inductive Refuses (location : Location) : Except RenderError Rendered → Prop
  | mismatch {place : Location} {expected found : String} (own : place.text = location.text) :
      Refuses location (.error (.shapeMismatch place expected found))
  | unknown {place : Location} {field : String} (own : place.text = location.text) :
      Refuses location (.error (.unknownField place field))

theorem not_refuses_ok {location : Location} {rendered : Rendered} :
    ¬ Refuses location (.ok rendered) := nofun

theorem not_refuses_of_failsFrom {location : Location} {outcome : Except RenderError Rendered}
    (inside : FailsFrom (location.text.length + 1) outcome) : ¬ Refuses location outcome := by
  intro refused
  cases refused with
  | mismatch own | unknown own =>
      obtain ⟨place, isPlace, long⟩ := inside _ rfl
      cases isPlace
      rw [own] at long
      omega

/-! ### What the test looks at -/

namespace Resolver

theorem accepts_string_iff (label : Label) (value : Value) :
    accepts (.scalar label .string) value = true ↔ ∃ text, value.asString? = some text := by
  cases value <;> simp [accepts, Value.asString?]

theorem accepts_list_iff (label : Label) (element : Schema) (value : Value) :
    accepts (.list label element) value = true ↔ ∃ items, value = .list items := by
  cases value <;> simp [accepts]

theorem accepts_dictionary_iff (label : Label) (element : Schema) (value : Value) :
    accepts (.dictionary label element) value = true ↔ ∃ members, value = .object members := by
  cases value <;> simp [accepts]

theorem hasMember_iff (members : List (String × Value)) (key : String) :
    hasMember members key = true ↔
      ∃ inner, (Value.object members).member? key = some inner ∧ inner.isNull = false := by
  simp only [hasMember, Value.member?, Value.asObject?, Option.bind_some]
  cases findValue? key members <;> simp

theorem fieldsAccept_iff (fields : List (Field Schema)) (members : List (String × Value)) :
    fieldsAccept fields members = true ↔
      (∀ member ∈ members, ∃ schema, Field.find? fields member.1 = some schema) ∧
        ∀ field ∈ fields, field.required = true →
          ∃ inner, (Value.object members).member? field.name = some inner ∧
            inner.isNull = false := by
  simp only [fieldsAccept, Bool.and_eq_true, List.all_eq_true, List.mem_filter, and_imp,
    hasMember_iff, Option.isSome_iff_exists]

end Resolver

/-! ### The test and the rendering -/

section Agreement

variable (renderer : Renderer) (resourceType : String) (nesting : Nat) (value : Value)
  (level : Nat) (location : Location) (depth : Nat)

theorem refuses_string_iff (label : Label) :
    Refuses location (renderer.renderNode resourceType (nesting + 1) (.scalar label .string)
        value level location depth) ↔ value.asString? = none := by
  rw [Renderer.renderNode_string]
  cases value.asString? with
  | none => exact ⟨fun _ => rfl, fun _ => .mismatch rfl⟩
  | some text => exact ⟨fun refused => absurd refused not_refuses_ok, nofun⟩

theorem refuses_list_iff (label : Label) (element : Schema) :
    Refuses location (renderer.renderNode resourceType (nesting + 1) (.list label element)
        value level location depth) ↔ ¬ ∃ items, value = .list items := by
  rw [Renderer.renderNode_list]
  cases isList : value.asList? with
  | none =>
      simp only [renderList, isList]
      have other : ¬ ∃ items, value = .list items := by
        simpa using Value.asList?_eq_none_iff.mp isList
      exact ⟨fun _ => other, fun _ => .mismatch rfl⟩
  | some items =>
      cases Value.asList?_eq_some_iff.mp isList
      have inside := failsFrom_renderList (renderNode_failsBelow renderer resourceType nesting)
        element items level location
      exact ⟨fun refused => absurd refused (not_refuses_of_failsFrom inside),
        fun other => absurd ⟨items, rfl⟩ other⟩

/-- An object is refused for a member whose name is not known, and everything else is. -/
theorem refuses_object_iff (schema : Schema) (schemas : MemberSchemas) :
    Refuses location (renderObject (renderer.renderNode resourceType nesting) renderer.options
        schema schemas value level location) ↔
      ¬ ∃ members, value = .object members ∧
        ∀ member ∈ present members, ∃ inner, schemas.find? member.1 = some inner := by
  cases isObject : value.asObject? with
  | none =>
      simp only [renderObject, isObject]
      refine ⟨fun _ => ?_, fun _ => .mismatch rfl⟩
      rintro ⟨members, same, _⟩
      exact Value.asObject?_eq_none_iff.mp isObject members same
  | some members =>
      cases Value.asObject?_eq_some_iff.mp isObject
      simp only [Value.object.injEq, exists_eq_left', ← succeeds_membersOf_iff schemas location]
      cases known : membersOf schemas location members with
      | error error =>
          rw [renderObject_unknown _ _ _ known]
          obtain ⟨field, rfl⟩ := membersOf_error known
          exact ⟨fun _ => not_succeeds_error _, fun _ => .unknown rfl⟩
      | ok found =>
          have inside := failsFrom_renderObject
            (renderNode_failsBelow renderer resourceType nesting) renderer.options schema schemas
            members level location ⟨found, known⟩
          exact ⟨fun refused => absurd refused (not_refuses_of_failsFrom inside),
            fun other => absurd (succeeds_ok found) other⟩

/--
A string, list, dictionary or record accepts a value exactly when rendering the value by it is
not refused for the value itself, every required field is there and not null, and no null
member of the value has a name that the record does not declare.
-/
theorem accepts_iff_not_refuses (alternative : Schema)
    (demanding : alternative.demandedKind?.isSome = true) :
    Resolver.accepts alternative value = true ↔
      ¬ Refuses location (renderer.renderNode resourceType (nesting + 1) alternative value level
          location depth) ∧
      ∀ label fields, alternative = .record label fields →
        (∀ field ∈ fields, field.required = true →
          ∃ inner, value.member? field.name = some inner ∧ inner.isNull = false) ∧
        ∀ members, value = .object members → ∀ member ∈ members, member.2.isNull = true →
          ∃ schema, Field.find? fields member.1 = some schema := by
  cases alternative with
  | scalar label kind =>
      cases kind with
      | string =>
          rw [Resolver.accepts_string_iff, refuses_string_iff, ← Option.ne_none_iff_exists']
          simp
      | boolean => cases demanding
      | number => cases demanding
  | list label element =>
      rw [Resolver.accepts_list_iff, refuses_list_iff, not_not]
      simp
  | dictionary label element =>
      rw [Resolver.accepts_dictionary_iff, Renderer.renderNode_dictionary, refuses_object_iff,
        not_not]
      simp [MemberSchemas.find?]
  | record label fields =>
      rw [Renderer.renderNode_record, refuses_object_iff, not_not]
      constructor
      · intro accepted
        cases value with
        | object members =>
            obtain ⟨declared, complete⟩ := (Resolver.fieldsAccept_iff fields members).mp accepted
            refine ⟨⟨members, rfl, fun member inside =>
              declared member (mem_present.mp inside).1⟩, ?_⟩
            rintro _ _ ⟨⟩
            refine ⟨complete, ?_⟩
            rintro _ ⟨⟩ member inside _
            exact declared member inside
        | null | bool | number | string | list => simp [Resolver.accepts] at accepted
      · rintro ⟨⟨members, rfl, declared⟩, complete⟩
        obtain ⟨complete, nulls⟩ := complete label fields rfl
        refine (Resolver.fieldsAccept_iff fields members).mpr ⟨?_, complete⟩
        intro member inside
        cases isNull : member.2.isNull with
        | true => exact nulls members rfl member inside isNull
        | false => exact declared member (mem_present.mpr ⟨inside, isNull⟩)
  | union label alternatives => cases demanding

end Agreement

def idFields : List (Field Schema) :=
  [⟨"id", true, .scalar {} .string⟩, ⟨"zone", false, .scalar {} .string⟩]

/-- A member of the wrong kind inside the record does not count. -/
theorem idRecord_accepts :
    (Schema.record {} idFields).demandedKind?.isSome = true ∧
      Resolver.accepts (.record {} idFields) (.object [("id", .bool true)]) = true ∧
      ¬ Refuses (.root "service") (Renderer.renderNode {} "service" 2 (.record {} idFields)
        (.object [("id", .bool true)]) 0 (.root "service") 0) :=
  ⟨rfl, rfl, ((accepts_iff_not_refuses {} "service" 1 (.object [("id", .bool true)]) 0
    (.root "service") 0 (.record {} idFields) rfl).mp rfl).1⟩

/-- A null member that is not declared keeps a value from the record that rendering would take:
the record renders it, required field and all, and the union of the record does not. -/
theorem null_member_keeps_from_record :
    Resolver.accepts (.record {} idFields) (.object [("id", .string "a"), ("note", .null)]) =
        false ∧
      Renderer.render {} "service" (.record {} idFields)
          (.object [("id", .string "a"), ("note", .null)]) = .ok ⟨"=\n  id = \"a\"", []⟩ ∧
      (∀ field ∈ idFields, field.required = true →
        ∃ inner, (Value.object [("id", .string "a"), ("note", .null)]).member? field.name =
          some inner ∧ inner.isNull = false) ∧
      Renderer.render {} "service" (.union {} [.record {} idFields])
          (.object [("id", .string "a"), ("note", .null)]) =
        .error (.resolution (.root "service")
          (.unresolvedUnion "service" "union" (.noAlternative "object"))) := by
  refine ⟨rfl, rfl, ?_, rfl⟩
  intro field inside required
  simp only [idFields, List.mem_cons, List.not_mem_nil, or_false] at inside
  rcases inside with rfl | rfl
  · exact ⟨.string "a", rfl, rfl⟩
  · cases required

end Stanza
