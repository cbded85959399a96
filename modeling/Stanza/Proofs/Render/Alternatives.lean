import Stanza.Proofs.Render.Factoring
import Stanza.Proofs.Render.Nesting

set_option autoImplicit false

/-!
A field that is a union against the same field with the chosen alternative declared in its
place. Both give the same companions or the same error, and the same text where the
alternative is no block: under a union a member always becomes an attribute, and only a
schema that is declared for a field makes blocks of it.
-/

namespace Stanza

open Render

/-! ### One field declared anew -/

def Field.replace {α : Type} (name : String) (schema : α) (fields : List (Field α)) :
    List (Field α) :=
  fields.map fun field => if field.name = name then { field with schema := schema } else field

theorem Field.find?_replace {α : Type} (name : String) (schema : α) (fields : List (Field α))
    (key : String) :
    Field.find? (Field.replace name schema fields) key =
      (Field.find? fields key).map fun present => if key = name then schema else present := by
  induction fields with
  | nil => rfl
  | cons field rest ih =>
      have kept : (if field.name = name then { field with schema := schema } else field).name =
          field.name := by split <;> rfl
      simp only [Field.find?, Field.replace, List.map_cons, List.find?_cons, kept] at ih ⊢
      by_cases here : field.name = key
      · subst here
        by_cases own : field.name = name <;> simp [own]
      · simp only [here, decide_false]
        exact ih

def Render.Member.redeclare (name : String) (schema : Schema) (member : Member) : Member :=
  if member.key = name then { member with schema := schema } else member

theorem membersOf_replace (name : String) (schema : Schema) (fields : List (Field Schema))
    (location : Location) (members : List (String × Value)) :
    membersOf (.declared (Field.replace name schema fields)) location members =
      (membersOf (.declared fields) location members).map
        (List.map (Member.redeclare name schema)) := by
  apply mapM_eq_map_mapM
  intro member _
  simp only [MemberSchemas.find?, Field.find?_replace]
  cases Field.find? fields member.1 with
  | none => rfl
  | some present =>
      by_cases own : member.1 = name
      · simp [Member.redeclare, own, Except.map]
      · simp [Member.redeclare, own, Except.map]

def Collected.map {α β : Type} (change : α → β) (collected : Collected α) : Collected β :=
  ⟨change collected.content, collected.companions⟩

/-- An attribute as the part that a declared schema makes of it: a block, a block for each
item of a list, or still an attribute. -/
def Part.declaredAs (blocks? : Option (Schema × Bool)) : Part → Part
  | .assignment key content =>
      match blocks?, content with
      | some (_, false), content => .block key content
      | some (_, true), .list items => .blocks key items
      | _, content => .assignment key content
  | part => part

/-- The body in which one member is laid out by the schema declared for it. -/
def Outline.redeclare (name : String) (schema : Schema) : Outline → Outline
  | .body marker parts =>
      .body marker (parts.map fun part =>
        if part.key = name then part.declaredAs schema.blockSchema? else part)
  | outline => outline

@[simp] theorem Part.declaredAs_none (part : Part) : part.declaredAs none = part := by
  cases part <;> rfl

theorem Outline.redeclare_attribute {schema : Schema} (isAttribute : schema.blockSchema? = none)
    (name : String) (outline : Outline) : outline.redeclare name schema = outline := by
  cases outline with
  | literal => rfl
  | list => rfl
  | body marker parts => simp [redeclare, isAttribute]

namespace Outline

theorem elaborate_list (resolver : Resolver) (resourceType : String) (nesting depth : Nat)
    (label : Label) (element : Schema) (value : Value) (location : Location) :
    elaborate resolver resourceType (nesting + 1) (.list label element) value location depth =
      elaborateList (elaborate resolver resourceType nesting) element value location := rfl

theorem elaborate_record (resolver : Resolver) (resourceType : String) (nesting depth : Nat)
    (label : Label) (fields : List (Field Schema)) (value : Value) (location : Location) :
    elaborate resolver resourceType (nesting + 1) (.record label fields) value location depth =
      elaborateObject (elaborate resolver resourceType nesting) (.record label fields)
        (.declared fields) value location := rfl

/-! ### The member of a union -/

/-- The value goes to this alternative: it is no raw expression, and no alternative before
this one accepts it. -/
def Picks (alternatives : List Schema) (chosen : Schema) (value : Value) : Prop :=
  (∀ text, value ≠ Resolver.expression text) ∧
    Resolver.FirstAccepting alternatives value chosen

theorem Picks.exists_items {alternatives : List Schema} {label : Label} {element : Schema}
    {value : Value} (picks : Picks alternatives (.list label element) value) :
    ∃ items, value = .list items := by
  obtain ⟨_, _, _, _, _, accepted⟩ := picks
  cases value with
  | list items => exact ⟨items, rfl⟩
  | null | bool | number | string | object => simp [Resolver.accepts] at accepted

section Choices

variable {label : Label} {alternatives : List Schema} {chosen : Schema} {value : Value}
  {nesting : Nat} (resourceType : String)

theorem elaborateUnion_of_picks (picks : Picks alternatives chosen value) (child : Elaborator)
    (location : Location) {depth : Nat} (few : depth < 16) :
    elaborateUnion child Resolver.structural resourceType (.union label alternatives) value
        location depth = child chosen value location (depth + 1) := by
  have notDeep : ¬ resolutionLimit ≤ depth := Nat.not_le.mpr few
  rcases Resolver.structural_union resourceType label alternatives value with
    ⟨text, isExpression, _⟩ | ⟨_, ⟨other, first, answer⟩ | ⟨refused, _⟩⟩
  · exact absurd isExpression (picks.1 text)
  · cases first.unique picks.2
    simp only [elaborateUnion, if_neg notDeep, answer, List.nil_append]
    cases child chosen value location (depth + 1) <;> rfl
  · exact absurd picks.2 (refused chosen)

/-- The number of unions above matters to unions only. -/
theorem elaborate_depth (single : ∀ other others, chosen ≠ .union other others)
    (resolver : Resolver) (location : Location) (depth another : Nat) :
    elaborate resolver resourceType nesting chosen value location depth =
      elaborate resolver resourceType nesting chosen value location another := by
  cases nesting with
  | zero => rfl
  | succ nesting =>
      cases chosen with
      | scalar label kind => cases kind <;> rfl
      | list => rfl
      | dictionary => rfl
      | record => rfl
      | union label alternatives => exact absurd rfl (single label alternatives)

theorem elaborate_of_picks (picks : Picks alternatives chosen value)
    (single : ∀ other others, chosen ≠ .union other others)
    (low : (Schema.union label alternatives).height ≤ nesting) (location : Location) :
    elaborate Resolver.structural resourceType nesting (.union label alternatives) value location
        0 = elaborate Resolver.structural resourceType nesting chosen value location 0 := by
  simp only [Schema.height] at low
  have lower := Schema.height_le_heightOfAll picks.2.mem
  obtain ⟨less, rfl⟩ : ∃ less, nesting = less + 1 := ⟨nesting - 1, by omega⟩
  calc elaborate Resolver.structural resourceType (less + 1) (.union label alternatives) value
        location 0
    _ = elaborate Resolver.structural resourceType less chosen value location 1 :=
        elaborateUnion_of_picks resourceType picks _ location (by omega)
    _ = elaborate Resolver.structural resourceType less chosen value location 0 :=
        elaborate_depth resourceType single _ location 1 0
    _ = elaborate Resolver.structural resourceType (less + 1) chosen value location 0 := by
        rw [elaborate_eq_of_height_le resourceType less chosen (less + 1) (by omega) (by omega)]

/-- Under the union the member is an attribute, whose content the chosen alternative lays out
as it would have when declared. -/
theorem elaborateMember_redeclare (picks : Picks alternatives chosen value)
    (single : ∀ other others, chosen ≠ .union other others) (unmarked : label.marker ≠ .block)
    (low : (Schema.union label alternatives).height ≤ nesting) (location : Location)
    (key : String) :
    elaborateMember (elaborate Resolver.structural resourceType nesting) false location
        ⟨key, value, chosen⟩ =
      (elaborateMember (elaborate Resolver.structural resourceType nesting) false location
        ⟨key, value, .union label alternatives⟩).map
          (Collected.map (Part.declaredAs chosen.blockSchema?)) := by
  have isAttribute : (Schema.union label alternatives).blockSchema? = none :=
    Schema.blockSchema?_of_attribute unmarked fun _ repeated => nomatch repeated
  simp only [elaborateMember, isAttribute,
    elaborate_of_picks resourceType picks single low (location.key key)]
  rcases Schema.blockSchema?_cases chosen with
    ⟨_, isBlock⟩ | ⟨block, repeated, isRepeated⟩ | ⟨_, _, isAssigned⟩
  · simp only [isBlock]
    cases elaborate Resolver.structural resourceType nesting chosen value (location.key key) 0 <;>
      rfl
  · simp only [isRepeated]
    cases repeated with
    | @list listLabel _ _ _ =>
        obtain ⟨items, rfl⟩ := picks.exists_items
        have inside := Schema.height_le_heightOfAll picks.2.mem
        simp only [Schema.height] at low inside
        obtain ⟨less, rfl⟩ : ∃ less, nesting = less + 1 := ⟨nesting - 1, by omega⟩
        have same := elaborate_eq_of_height_le resourceType (less + 1) block less (by omega)
          (by omega)
        rw [same, elaborate_list]
        simp only [elaborateList, Value.asList?]
        cases forEachFrom (fun index item => elaborate Resolver.structural resourceType less block
          item ((location.key key).index index) 0) 0 items <;> rfl
  · simp only [isAssigned]
    cases elaborate Resolver.structural resourceType nesting chosen value (location.key key) 0 with
    | error error => rfl
    | ok outcome =>
      simp [Except.map, Collected.map, bind, Except.bind, pure, Except.pure]

end Choices

/-! ### Whole records -/

theorem key_of_elaborateMember {elaborator : Elaborator} {location : Location} {member : Member}
    {part : Collected Part}
    (elaborated : elaborateMember elaborator false location member = .ok part) :
    part.content.key = member.key := by
  unfold elaborateMember at elaborated
  rcases Schema.blockSchema?_cases member.schema with
    ⟨_, isBlock⟩ | ⟨block, _, isRepeated⟩ | ⟨_, _, isAssigned⟩
  · simp only [isBlock] at elaborated
    obtain ⟨content, _, same⟩ := bind_eq_ok_iff.mp elaborated
    cases same
    rfl
  · simp only [isRepeated] at elaborated
    cases isList : member.value.asList? with
    | none =>
        rw [isList] at elaborated
        cases elaborated
    | some items =>
        rw [isList] at elaborated
        obtain ⟨contents, _, same⟩ := bind_eq_ok_iff.mp elaborated
        cases same
        rfl
  · simp only [isAssigned] at elaborated
    obtain ⟨content, _, same⟩ := bind_eq_ok_iff.mp elaborated
    cases same
    rfl

section Records

variable {label unionLabel : Label} {alternatives : List Schema} {chosen : Schema}
  {fields : List (Field Schema)} {members : List (String × Value)} {name : String}
  (declared : Field.find? fields name = some (.union unionLabel alternatives))
  (unmarked : unionLabel.marker ≠ .block)

include declared unmarked

/-- Under the union the member is an attribute. -/
theorem assignments_of_union {elaborator : Elaborator} {location : Location}
    {outcome : Collected Outline}
    (elaborated : elaborateObject elaborator (.record label fields) (.declared fields)
      (.object members) location = .ok outcome) :
    ∃ parts, outcome.content = .body label.marker parts ∧
      ∀ part ∈ parts, part.key = name → ∃ content, part = .assignment name content := by
  obtain ⟨parts, isBody, contributed⟩ := contributes_of_elaborateObject elaborated
  refine ⟨parts, isBody, ?_⟩
  intro part inside own
  obtain ⟨source, _, contributes⟩ := exists_left_of_mem contributed inside
  cases contributes with
  | assignment found _ _ _ =>
      cases own
      exact ⟨_, rfl⟩
  | block found marked =>
      cases own
      cases declared.symm.trans found
      exact absurd marked unmarked
  | blocks found repeated =>
      cases own
      cases declared.symm.trans found
      cases repeated

variable (single : ∀ other others, chosen ≠ .union other others)
  (picks : ∀ value, (name, value) ∈ members → Picks alternatives chosen value)

include single picks

theorem elaborate_replace (resourceType : String) {nesting : Nat}
    (low : (Schema.union unionLabel alternatives).height ≤ nesting) (location : Location)
    (depth : Nat) :
    elaborate Resolver.structural resourceType (nesting + 1)
        (.record label (Field.replace name chosen fields)) (.object members) location depth =
      (elaborate Resolver.structural resourceType (nesting + 1) (.record label fields)
        (.object members) location depth).map (Collected.map (redeclare name chosen)) := by
  rw [elaborate_record, elaborate_record]
  simp only [elaborateObject, Value.asObject?, membersOf_replace]
  cases foundIs : membersOf (.declared fields) location members with
  | error error => rfl
  | ok found =>
      have each : ∀ member ∈ found,
          elaborateMember (elaborate Resolver.structural resourceType nesting) false location
              (member.redeclare name chosen) =
            (elaborateMember (elaborate Resolver.structural resourceType nesting) false location
              member).map (Collected.map fun part =>
                if part.key = name then part.declaredAs chosen.blockSchema? else part) := by
        intro member inside
        obtain ⟨key, value, schema⟩ := member
        obtain ⟨⟨_, _⟩, isPresent, rfl, rfl, isSchema⟩ :=
          exists_left_of_mem ((membersOf_eq_ok_iff _ _ _ _).mp foundIs) inside
        by_cases own : key = name
        · subst own
          cases declared.symm.trans isSchema
          have mine := picks value (mem_present.mp isPresent).1
          rw [Member.redeclare, if_pos rfl,
            elaborateMember_redeclare resourceType mine single unmarked low location key]
          cases part : elaborateMember (elaborate Resolver.structural resourceType nesting) false
              location ⟨key, value, .union unionLabel alternatives⟩ with
          | error error => rfl
          | ok outcome =>
              simp only [Except.map, Collected.map, key_of_elaborateMember part, if_true]
        · rw [Member.redeclare, if_neg own]
          cases part : elaborateMember (elaborate Resolver.structural resourceType nesting) false
              location ⟨key, value, schema⟩ with
          | error error => rfl
          | ok outcome =>
              simp only [Except.map, Collected.map, key_of_elaborateMember part, if_neg own]
      have parts : (found.map (Member.redeclare name chosen)).mapM
          (elaborateMember (elaborate Resolver.structural resourceType nesting) false location) =
            (found.mapM (elaborateMember (elaborate Resolver.structural resourceType nesting) false
              location)).map (List.map (Collected.map fun part =>
                if part.key = name then part.declaredAs chosen.blockSchema? else part)) := by
        rw [List.mapM_map]
        exact mapM_eq_map_mapM each
      simp only [Except.map, bind, Except.bind, MemberSchemas.quoteKeys] at parts ⊢
      rw [parts]
      cases found.mapM (elaborateMember (elaborate Resolver.structural resourceType nesting) false
          location) with
      | error error => rfl
      | ok outcomes =>
          simp only [pure, Except.pure, redeclare, Collected.map, collect, List.map_map,
            List.flatMap_map]
          rfl

/--
A field that is a union, not marked as a block, whose member goes to the alternative `chosen`.
An alternative that is neither a block nor a list of blocks can be declared for the field and
nothing changes. Otherwise companions and errors are the same, and the texts are those of one
body, in which the member is an attribute under the union and becomes blocks when the
alternative is declared.
-/
theorem renderAt_union_member (options : RenderOptions) (reach : Nat) (resourceType : String)
    (location : Location) :
    (chosen.blockSchema? = none →
      Renderer.renderAt ⟨Resolver.structural, options, reach⟩ resourceType
          (.record label fields) (.object members) location =
        Renderer.renderAt ⟨Resolver.structural, options, reach⟩ resourceType
          (.record label (Field.replace name chosen fields)) (.object members) location) ∧
    ∃ outcome, outcome = elaborate Resolver.structural resourceType
        ((Schema.record label fields).height + reach) (.record label fields) (.object members)
        location 0 ∧
      Renderer.renderAt ⟨Resolver.structural, options, reach⟩ resourceType
          (.record label fields) (.object members) location =
        outcome.map (fun body => ⟨body.content.print options 0, body.companions⟩) ∧
      Renderer.renderAt ⟨Resolver.structural, options, reach⟩ resourceType
          (.record label (Field.replace name chosen fields)) (.object members) location =
        outcome.map (fun body =>
          ⟨(body.content.redeclare name chosen).print options 0, body.companions⟩) ∧
      ∀ body, outcome = .ok body → ∃ parts, body.content = .body label.marker parts ∧
        ∀ part ∈ parts, part.key = name → ∃ content, part = .assignment name content := by
  have printed (schema : Schema) (value : Value) :
      Renderer.renderAt ⟨Resolver.structural, options, reach⟩ resourceType schema value location =
        (elaborate Resolver.structural resourceType (schema.height + reach) schema value location
          0).map (rendering options 0) :=
    renderNode_prints ⟨Resolver.structural, options, reach⟩ resourceType _ _ _ _ _ _
  -- both records are elaborated with the same nesting, enough for either
  have replaced : elaborate Resolver.structural resourceType
      ((Schema.record label (Field.replace name chosen fields)).height + reach)
      (.record label (Field.replace name chosen fields)) (.object members) location 0 =
        (elaborate Resolver.structural resourceType ((Schema.record label fields).height + reach)
          (.record label fields) (.object members) location 0).map
            (Collected.map (redeclare name chosen)) := by
    obtain ⟨field, inside, _, isUnion⟩ := Field.mem_of_find? declared
    have low := Schema.height_le_heightOfFields inside
    rw [isUnion] at low
    let enough := Schema.heightOfFields fields +
      Schema.heightOfFields (Field.replace name chosen fields) + reach
    rw [elaborate_eq_of_height_le resourceType _ (.record label fields) (enough + 1)
        (by omega) (by simp only [Schema.height, enough]; omega),
      elaborate_eq_of_height_le resourceType _
        (.record label (Field.replace name chosen fields)) (enough + 1) (by omega)
        (by simp only [Schema.height, enough]; omega)]
    exact elaborate_replace declared unmarked single picks resourceType
      (by simp only [enough]; omega) location 0
  constructor
  · intro isAttribute
    have unchanged : Collected.map (redeclare name chosen) = id := by
      funext outcome
      simp only [Collected.map, redeclare_attribute isAttribute, id_eq]
    rw [printed, printed, replaced, unchanged]
    cases elaborate Resolver.structural resourceType ((Schema.record label fields).height + reach)
      (.record label fields) (.object members) location 0 <;> rfl
  · refine ⟨_, rfl, printed _ _, ?_, ?_⟩
    · rw [printed, replaced]
      cases elaborate Resolver.structural resourceType
        ((Schema.record label fields).height + reach) (.record label fields) (.object members)
        location 0 <;> rfl
    · intro body elaborated
      rw [Schema.height, Nat.add_right_comm, elaborate_record] at elaborated
      exact assignments_of_union declared unmarked elaborated

end Records

def targetFields : List (Field Schema) :=
  [⟨"name", true, .scalar {} .string⟩,
    ⟨"target", false, .union {} [.scalar {} .string, .list {} (.scalar {} .string)]⟩]

/-- A list under the union of texts and lists. -/
theorem targets_as_list :
    Renderer.render {} "link" (.record ⟨.resource, none⟩ targetFields)
        (.object [("target", .list [.string "a"])]) =
      Renderer.render {} "link"
        (.record ⟨.resource, none⟩
          (Field.replace "target" (.list {} (.scalar {} .string)) targetFields))
        (.object [("target", .list [.string "a"])]) := by
  have declared : Field.find? targetFields "target" =
      some (.union {} [.scalar {} .string, .list {} (.scalar {} .string)]) := rfl
  have picks : ∀ value, ("target", value) ∈ [("target", Value.list [.string "a"])] →
      Picks [.scalar {} .string, .list {} (.scalar {} .string)]
        (.list {} (.scalar {} .string)) value := by
    intro value member
    cases List.mem_singleton.mp member
    refine ⟨fun text => nofun, [.scalar {} .string], [], rfl, ?_, rfl⟩
    intro earlier inside
    cases List.mem_singleton.mp inside
    rfl
  have single (other : Label) (others : List Schema) :
      Schema.list {} (.scalar {} .string) ≠ .union other others := nofun
  exact (renderAt_union_member declared (by decide) single picks {} 0 "link" (.root "link")).1 rfl

def ruleFields : List (Field Schema) :=
  [⟨"rule", false, .union {} [.record ⟨.block, none⟩ []]⟩]

/-- Under the union a block alternative stays an attribute, and declared it makes a block. -/
theorem block_alternative_stays_attribute :
    Field.find? ruleFields "rule" = some (.union {} [.record ⟨.block, none⟩ []]) ∧
      Picks [.record ⟨.block, none⟩ []] (.record ⟨.block, none⟩ []) (.object []) ∧
      Renderer.render {} "service" (.record ⟨.resource, none⟩ ruleFields)
          (.object [("rule", .object [])]) = .ok ⟨"\x7b\n  rule = \x7b\n  \x7d\n\x7d", []⟩ ∧
      Renderer.render {} "service"
          (.record ⟨.resource, none⟩
            (Field.replace "rule" (.record ⟨.block, none⟩ []) ruleFields))
          (.object [("rule", .object [])]) = .ok ⟨"\x7b\n  rule \x7b\n  \x7d\n\x7d", []⟩ ∧
      (⟨"\x7b\n  rule = \x7b\n  \x7d\n\x7d", []⟩ : Rendered) ≠
        ⟨"\x7b\n  rule \x7b\n  \x7d\n\x7d", []⟩ := by
  exact ⟨rfl, ⟨fun text => nofun, [], [], rfl, by simp, rfl⟩, rfl, rfl, by decide⟩

end Outline
end Stanza
