import Stanza.Proofs.Render.Outline

set_option autoImplicit false

/-!
How deep an elaboration goes. Each value that is elaborated asks for others, each along a
schema of its own. As long as no chain of such calls is as long as the nesting that is granted,
the elaboration ends, and more nesting gives the same. With the structural resolver every call
goes to a lower schema, so the height of a schema is enough.
-/

namespace Stanza

open Render

/-! ### Calls -/

/-- A value to be rendered along a schema, below so many unions that follow on each other. -/
structure Call where
  schema : Schema
  value : Value
  unions : Nat

/-- What the rendering of one value asks for: its elements; its members that are not null, or the
elements of a member that repeats a block; or what a resolver answers in place of a union. -/
inductive Calls (resolver : Resolver) (resourceType : String) : Call → Call → Prop
  | element {unions : Nat} {label : Label} {element : Schema} {items : List Value} {item : Value}
      (inside : item ∈ items) :
      Calls resolver resourceType ⟨.list label element, .list items, unions⟩ ⟨element, item, 0⟩
  | member {unions : Nat} {schema inner : Schema} {schemas : MemberSchemas}
      {members : List (String × Value)} {key : String} {value : Value}
      (isObject : memberSchemas? schema = some schemas) (inside : (key, value) ∈ present members)
      (declared : schemas.find? key = some inner)
      (single : ∀ block, ¬ Schema.RepeatsBlock inner block) :
      Calls resolver resourceType ⟨schema, .object members, unions⟩ ⟨inner, value, 0⟩
  | repeated {unions : Nat} {schema inner block : Schema} {schemas : MemberSchemas}
      {members : List (String × Value)} {key : String} {items : List Value} {item : Value}
      (isObject : memberSchemas? schema = some schemas)
      (inside : (key, .list items) ∈ present members)
      (declared : schemas.find? key = some inner) (repeats : Schema.RepeatsBlock inner block)
      (among : item ∈ items) :
      Calls resolver resourceType ⟨schema, .object members, unions⟩ ⟨block, item, 0⟩
  | answer {unions : Nat} {label : Label} {alternatives : List Schema} {value inner : Value}
      {next : Schema} (few : unions < 16)
      (answered : (resolver resourceType (.union label alternatives) value).answer =
        .ok (.indirect next inner)) :
      Calls resolver resourceType ⟨.union label alternatives, value, unions⟩
        ⟨next, inner, unions + 1⟩

theorem Schema.not_repeatsBlock_of_block {schema : Schema} (marked : schema.marker = .block)
    (block : Schema) : ¬ RepeatsBlock schema block := by
  rintro ⟨unmarked, _⟩
  exact unmarked marked

/-! ### Outcomes with enough nesting -/

/-- The two outcomes are the same, and not that the nesting is used up. -/
structure SameEnd {α : Type} (first second : Except RenderError α) : Prop where
  same : first = second
  ends : ∀ location, first ≠ .error (.nestingExhausted location)

namespace SameEnd

variable {α β : Type}

theorem ok (result : α) : SameEnd (.ok result) (.ok result) := ⟨rfl, nofun⟩

theorem error {cause : RenderError} (other : ∀ location, cause ≠ .nestingExhausted location) :
    SameEnd (.error cause : Except RenderError α) (.error cause) :=
  ⟨rfl, fun location same => other location (Except.error.inj same)⟩

theorem mismatch (location : Location) (expected : String) (found : Value) :
    SameEnd (Render.mismatch location expected found : Except RenderError α)
      (Render.mismatch location expected found) :=
  error nofun

theorem bind {first second : Except RenderError α} {next other : α → Except RenderError β}
    (start : SameEnd first second)
    (later : ∀ result, first = .ok result → SameEnd (next result) (other result)) :
    SameEnd (first >>= next) (second >>= other) := by
  obtain ⟨rfl, ends⟩ := start
  cases done : first with
  | error cause =>
      refine error fun location same => ends location ?_
      rw [done, same]
  | ok result => exact later result done

theorem bind_pure {first second : Except RenderError α} (start : SameEnd first second)
    (last : α → β) :
    SameEnd (first >>= fun result => pure (last result))
      (second >>= fun result => pure (last result)) :=
  start.bind fun result _ => ok (last result)

theorem forEachFrom {handle other : Nat → α → Except RenderError β} {items : List α}
    (each : ∀ index, ∀ item ∈ items, SameEnd (handle index item) (other index item))
    (index : Nat) :
    SameEnd (forEachFrom handle index items) (forEachFrom other index items) := by
  induction items generalizing index with
  | nil => exact ok []
  | cons item rest ih =>
      have further := ih fun index item member => each index item (List.mem_cons_of_mem _ member)
      exact (each index item List.mem_cons_self).bind fun first _ =>
        (further (index + 1)).bind_pure (first :: ·)

theorem mapM {step other : α → Except RenderError β} {items : List α}
    (each : ∀ item ∈ items, SameEnd (step item) (other item)) :
    SameEnd (items.mapM step) (items.mapM other) := by
  induction items with
  | nil => exact ok []
  | cons item rest ih =>
      have further := ih fun item member => each item (List.mem_cons_of_mem _ member)
      rw [List.mapM_cons, List.mapM_cons]
      exact (each item List.mem_cons_self).bind fun first _ => further.bind_pure (first :: ·)

theorem membersOf (schemas : MemberSchemas) (location : Location)
    (members : List (String × Value)) :
    SameEnd (membersOf schemas location members) (Render.membersOf schemas location members) := by
  apply mapM
  intro member _
  cases schemas.find? member.1 with
  | none => exact error nofun
  | some schema => exact ok _

end SameEnd

namespace Outline

/-- Wherever the call stands, both ways to elaborate it end and give the same. -/
def Agree (child other : Elaborator) (call : Call) : Prop :=
  ∀ location, SameEnd (child call.schema call.value location call.unions)
    (other call.schema call.value location call.unions)

section Step

variable {resolver : Resolver} {resourceType : String} {child other : Elaborator}

theorem sameEnd_elaborateList {unions : Nat} {label : Label} {element : Schema} {value : Value}
    (agree : ∀ inner, Calls resolver resourceType ⟨.list label element, value, unions⟩ inner →
      Agree child other inner) (location : Location) :
    SameEnd (elaborateList child element value location)
      (elaborateList other element value location) := by
  unfold elaborateList
  cases isList : value.asList? with
  | none => exact .mismatch _ _ _
  | some items =>
      cases Value.asList?_eq_some_iff.mp isList
      exact (SameEnd.forEachFrom (fun index item inside =>
        agree ⟨element, item, 0⟩ (.element inside) (location.index index)) 0).bind_pure _

theorem sameEnd_elaborateMember {unions : Nat} {schema : Schema} {schemas : MemberSchemas}
    {members : List (String × Value)} (isObject : memberSchemas? schema = some schemas)
    (agree : ∀ inner, Calls resolver resourceType ⟨schema, .object members, unions⟩ inner →
      Agree child other inner) {member : Member}
    (inside : (member.key, member.value) ∈ present members)
    (declared : schemas.find? member.key = some member.schema) (quoted : Bool)
    (location : Location) :
    SameEnd (elaborateMember child quoted location member)
      (elaborateMember other quoted location member) := by
  unfold elaborateMember
  rcases Schema.blockSchema?_cases member.schema with
    ⟨marked, isBlock⟩ | ⟨block, repeats, isRepeated⟩ | ⟨_, single, isAttribute⟩
  · simp only [isBlock]
    have single := Schema.not_repeatsBlock_of_block marked
    exact (agree _ (.member isObject inside declared single) _).bind_pure _
  · simp only [isRepeated]
    cases isList : member.value.asList? with
    | none => exact .mismatch _ _ _
    | some items =>
        rw [Value.asList?_eq_some_iff.mp isList] at inside
        have each (index : Nat) (item : Value) (among : item ∈ items) :=
          agree ⟨block, item, 0⟩ (.repeated isObject inside declared repeats among)
            ((location.key member.key).index index)
        exact (SameEnd.forEachFrom each 0).bind_pure _
  · simp only [isAttribute]
    exact (agree _ (.member isObject inside declared single) _).bind_pure _

theorem sameEnd_elaborateObject {unions : Nat} {schema : Schema} {schemas : MemberSchemas}
    {value : Value} (isObject : memberSchemas? schema = some schemas)
    (agree : ∀ inner, Calls resolver resourceType ⟨schema, value, unions⟩ inner →
      Agree child other inner) (location : Location) :
    SameEnd (elaborateObject child schema schemas value location)
      (elaborateObject other schema schemas value location) := by
  unfold elaborateObject
  cases isMembers : value.asObject? with
  | none => exact .mismatch _ _ _
  | some all =>
      cases Value.asObject?_eq_some_iff.mp isMembers
      refine (SameEnd.membersOf schemas location all).bind fun found foundIs => ?_
      refine (SameEnd.mapM fun member among => ?_).bind_pure _
      obtain ⟨source, inside, isKey, isValue, isSchema⟩ :=
        exists_left_of_mem ((membersOf_eq_ok_iff _ _ _ _).mp foundIs) among
      exact sameEnd_elaborateMember isObject agree (isKey ▸ isValue ▸ inside) (isKey ▸ isSchema) _ _

theorem sameEnd_elaborateUnion {unions : Nat} {label : Label} {alternatives : List Schema}
    {value : Value}
    (agree : ∀ inner, Calls resolver resourceType ⟨.union label alternatives, value, unions⟩
      inner → Agree child other inner) (location : Location) :
    SameEnd
      (elaborateUnion child resolver resourceType (.union label alternatives) value location unions)
      (elaborateUnion other resolver resourceType (.union label alternatives) value location
        unions) := by
  unfold elaborateUnion
  by_cases deep : resolutionLimit ≤ unions
  · rw [if_pos deep, if_pos deep]
    exact .error nofun
  · rw [if_neg deep, if_neg deep]
    cases answered : (resolver resourceType (.union label alternatives) value).answer with
    | error source => simpa only [answered] using .error nofun
    | ok resolution =>
        cases resolution with
        | direct text => simpa only [answered] using .ok _
        | indirect next inner =>
            have asked := agree ⟨next, inner, unions + 1⟩ (.answer (Nat.not_le.mp deep) answered)
            simpa only [answered] using (asked location).bind_pure _

/-- One more schema on the way down: what the calls of a value agree on, the value agrees on. -/
theorem agree_succ {call : Call} {nesting more : Nat}
    (agree : ∀ inner, Calls resolver resourceType call inner →
      Agree (elaborate resolver resourceType nesting) (elaborate resolver resourceType more)
        inner) :
    Agree (elaborate resolver resourceType (nesting + 1))
      (elaborate resolver resourceType (more + 1)) call := by
  intro location
  obtain ⟨schema, value, unions⟩ := call
  cases schema with
  | scalar label kind =>
      cases kind with
      | string =>
          cases value with
          | string text => exact .ok _
          | null | bool | number | list | object => exact .mismatch _ _ _
      | boolean => exact .ok _
      | number => exact .ok _
  | list label element => exact sameEnd_elaborateList agree location
  | dictionary label element => exact sameEnd_elaborateObject rfl agree location
  | record label fields => exact sameEnd_elaborateObject rfl agree location
  | union label alternatives => exact sameEnd_elaborateUnion agree location

/-- Whatever the resolver, nesting that no chain of calls uses up decides nothing; by induction
on a bound of these chains. -/
theorem agree_of_chains {call : Call} {bound nesting more : Nat}
    (short : ∀ calls, List.IsChain (Calls resolver resourceType) (call :: calls) →
      calls.length < bound)
    (enough : bound ≤ nesting) (enoughMore : bound ≤ more) :
    Agree (elaborate resolver resourceType nesting) (elaborate resolver resourceType more)
      call := by
  induction bound generalizing call nesting more with
  | zero => exact absurd (short [] (.singleton call)) (Nat.not_lt_zero _)
  | succ bound ih =>
      obtain ⟨nesting, rfl⟩ : ∃ less, nesting = less + 1 :=
        Nat.exists_eq_succ_of_ne_zero (by omega)
      obtain ⟨more, rfl⟩ : ∃ less, more = less + 1 := Nat.exists_eq_succ_of_ne_zero (by omega)
      refine agree_succ fun inner calls => ih ?_ (by omega) (by omega)
      intro further chain
      have longer := short (inner :: further) (.cons_cons calls chain)
      rw [List.length_cons] at longer
      omega

end Step

end Outline

/-! ### Lower schemas -/

theorem Schema.height_lt_of_memberSchemas? {schema inner : Schema} {schemas : MemberSchemas}
    {key : String} (isObject : memberSchemas? schema = some schemas)
    (declared : schemas.find? key = some inner) : inner.height < schema.height := by
  cases schema with
  | dictionary label element =>
      cases isObject
      cases declared
      simp only [height]
      omega
  | record label fields =>
      cases isObject
      obtain ⟨field, inside, _, rfl⟩ := Field.mem_of_find? declared
      have bound := height_le_heightOfFields inside
      simp only [height]
      omega
  | scalar | list | union => cases isObject

theorem Schema.height_lt_of_repeatsBlock {schema block : Schema}
    (repeated : RepeatsBlock schema block) : block.height < schema.height := by
  cases repeated with
  | list => simp only [height]; omega

/-- Also where the structural resolver answers, the answer is a part of the union. -/
theorem Calls.height_lt {resourceType : String} {call inner : Call}
    (calls : Calls Resolver.structural resourceType call inner) :
    inner.schema.height < call.schema.height := by
  cases calls with
  | element inside =>
      simp only [Schema.height]
      omega
  | member isObject inside declared => exact Schema.height_lt_of_memberSchemas? isObject declared
  | repeated isObject inside declared repeats =>
      exact Nat.lt_trans (Schema.height_lt_of_repeatsBlock repeats)
        (Schema.height_lt_of_memberSchemas? isObject declared)
  | @answer unions label alternatives value inner next few answered =>
      rcases Resolver.structural_union resourceType label alternatives value with
        ⟨text, _, is⟩ | ⟨_, ⟨chosen, first, is⟩ | ⟨_, is⟩⟩
      · rw [is] at answered
        cases answered
      · rw [is] at answered
        cases answered
        have bound := Schema.height_le_heightOfAll first.mem
        simp only [Schema.height]
        omega
      · rw [is] at answered
        cases answered

theorem length_lt_height_of_chain {resourceType : String} {call : Call} {calls : List Call}
    (chain : List.IsChain (Calls Resolver.structural resourceType) (call :: calls)) :
    calls.length < call.schema.height := by
  induction calls generalizing call with
  | nil => exact call.schema.height_pos
  | cons inner further ih =>
      obtain ⟨first, rest⟩ := List.isChain_cons_cons.mp chain
      have below := ih rest
      have lower := first.height_lt
      rw [List.length_cons]
      omega

/-- Nesting beyond the height of the schema decides nothing. -/
theorem Outline.elaborate_eq_of_height_le (resourceType : String) (nesting : Nat)
    (schema : Schema) (more : Nat) (enough : schema.height ≤ nesting)
    (enoughMore : schema.height ≤ more) :
    elaborate Resolver.structural resourceType nesting schema =
      elaborate Resolver.structural resourceType more schema := by
  funext value location depth
  have agree : Agree (elaborate Resolver.structural resourceType nesting)
      (elaborate Resolver.structural resourceType more) ⟨schema, value, depth⟩ :=
    agree_of_chains (fun _ chain => length_lt_height_of_chain chain) enough enoughMore
  exact (agree location).same

end Stanza
