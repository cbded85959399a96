import Mathlib.Logic.Relation
import Stanza.Proofs.Render.Factoring
import Stanza.Proofs.Render.Layout
import Stanza.Proofs.Render.Nesting
import Stanza.Proofs.Text.Indenting

set_option autoImplicit false

/-!
Rendering does not depend on the place of the value. Rendered some levels deeper, a value gives
the same companions or the same error, and the same text moved to the right, as long as no string,
key or answered text brings line ends of its own.
-/

namespace Stanza

open Render Text

namespace Outline

/-! ### Outlines printed deeper -/

/-- No literal and no key in front of an entry has a line end in it. -/
inductive Unbroken : Outline → Prop
  | literal {text : String} (single : OneLine text) : Unbroken (.literal text)
  | list {items : List Outline} (each : ∀ item ∈ items, Unbroken item) : Unbroken (.list items)
  | body {marker : Marker} {parts : List Part}
      (keys : ∀ entry ∈ parts.flatMap Part.entries, OneLine entry.key)
      (contents : ∀ entry ∈ parts.flatMap Part.entries, Unbroken entry.content) :
      Unbroken (.body marker parts)

variable {level more : Nat} {text moved : String}

theorem indent_add (level more : Nat) : indent (level + more) = indent more ++ indent level := by
  unfold indent
  rw [Nat.add_comm, Nat.mul_add, List.replicate_add, String.ofList_append]

/-- A line at the margin of its level moves to the margin of the deeper level. -/
theorem shiftsBelow_indent (shifts : Shifts (2 * more) text moved)
    (begins : Begins (indent level ++ text)) :
    ShiftsBelow (2 * more) (indent level ++ text) (indent (level + more) ++ moved) := by
  rw [indent_add, String.append_assoc]
  exact (((oneLine_spaces (2 * level)).shifts (2 * more)).append shifts).below begins

theorem begins_indent_succ (level : Nat) (text : String) : Begins (indent (level + 1) ++ text) := by
  apply Begins.append
  exact ⟨' ', by rw [toList_indent, Nat.mul_add, Nat.mul_one, List.replicate_succ]; rfl, by decide⟩

theorem shiftsBelow_closing (level more : Nat) {closer : String} (single : OneLine closer)
    (begins : Begins closer) :
    ShiftsBelow (2 * more) (indent level ++ closer) (indent (level + more) ++ closer) :=
  shiftsBelow_indent (single.shifts _) (begins.after_spaces _)

theorem shifts_bracketed (level : Nat) {items others : List String}
    (each : List.Forall₂ (Shifts (2 * more)) items others) :
    Shifts (2 * more) (bracketed level items) (bracketed (level + more) others) := by
  have comma : Shifts (2 * more) "," "," := OneLine.shifts (by decide) _
  have lines : List.Forall₂ (Shifts (2 * more))
      (items.map fun item => "\n" ++ (indent (level + 1) ++ (item ++ ",")))
      (others.map fun item => "\n" ++ (indent (level + more + 1) ++ (item ++ ","))) := by
    rw [List.forall₂_map_left_iff, List.forall₂_map_right_iff, Nat.add_right_comm]
    exact each.imp fun item other shifts =>
      shiftsBelow_indent (shifts.append comma) (begins_indent_succ level _)
  have opener : Shifts (2 * more) "[" "[" := OneLine.shifts (by decide) _
  have closing : ShiftsBelow (2 * more) (indent level ++ "]") (indent (level + more) ++ "]") :=
    shiftsBelow_closing level more (by decide) ⟨']', rfl, by decide⟩
  have empty : Shifts (2 * more) "[]" "[]" := OneLine.shifts (by decide) _
  cases each with
  | nil => exact empty
  | cons first rest =>
      simp only [bracketed, String.append_assoc]
      exact opener.append ((shifts_join lines).append closing)

/-! ### Entries below each other -/

/-- Entries of the same kind, the second moved to a deeper level. -/
def MovedEntry (more : Nat) (entry moved : Printed) : Prop :=
  moved.1 = entry.1 ∧ ShiftsBelow (2 * more) entry.2 moved.2

theorem shiftsBelow_stack {entry other : Printed} {entries others : List Printed}
    (first : MovedEntry more entry other) (rest : List.Forall₂ (MovedEntry more) entries others) :
    ShiftsBelow (2 * more) (stack (entry :: entries)) (stack (other :: others)) := by
  obtain ⟨sameKind, moves⟩ := first
  induction rest generalizing entry other with
  | nil => exact moves
  | @cons next nextMoved nexts others second _ ih =>
      have later := ih second.1 second.2
      have gap : Shifts (2 * more)
          ((if entry.1 || next.1 then "\n\n" else "\n") ++ stack (next :: nexts))
          ((if entry.1 || next.1 then "\n\n" else "\n") ++ stack (nextMoved :: others)) := by
        by_cases apart : (entry.1 || next.1) = true
        · rw [if_pos apart]
          exact later.blank
        · rw [if_neg apart]
          exact later
      have whole := moves.append gap
      unfold ShiftsBelow
      simpa only [stack, String.append_assoc, sameKind, second.1] using whole

theorem shifts_enclosed (braced : Bool) (level : Nat) {entries others : List Printed}
    (each : List.Forall₂ (MovedEntry more) entries others) :
    Shifts (2 * more) (enclosed braced level entries) (enclosed braced (level + more) others) := by
  have brace : Shifts (2 * more) "\x7b" "\x7b" := OneLine.shifts (by decide) _
  have equals : Shifts (2 * more) "=" "=" := OneLine.shifts (by decide) _
  have closing : ShiftsBelow (2 * more) (indent level ++ "\x7d")
      (indent (level + more) ++ "\x7d") :=
    shiftsBelow_closing level more (by decide) ⟨'\x7d', rfl, by decide⟩
  cases each with
  | nil =>
      cases braced with
      | true =>
          simp only [enclosed, String.append_assoc]
          exact brace.append closing
      | false => exact equals
  | cons first rest =>
      have body := shiftsBelow_stack first rest
      cases braced with
      | true =>
          have whole := brace.append (body.append closing)
          simpa only [enclosed, String.append_assoc] using whole
      | false =>
          have whole := equals.append body
          simpa only [enclosed, String.append_assoc] using whole

theorem movedEntry_printEntry (options : RenderOptions) (level width : Nat) {entry : OutlineEntry}
    (single : OneLine entry.key)
    (shifts : Shifts (2 * more) (print options (level + 1) entry.content)
      (print options (level + more + 1) entry.content)) :
    MovedEntry more (printEntry options (level + 1) width entry)
      (printEntry options (level + more + 1) width entry) := by
  have space : Shifts (2 * more) " " " " := OneLine.shifts (by decide) _
  have equals : Shifts (2 * more) " = " " = " := OneLine.shifts (by decide) _
  rw [Nat.add_right_comm] at shifts ⊢
  unfold printEntry
  cases entry.isBlock with
  | true =>
      have body := ((single.shifts _).append space).append shifts
      simp only [↓reduceIte, printedBlock, String.append_assoc] at body ⊢
      exact ⟨rfl, shiftsBelow_indent body (begins_indent_succ level _)⟩
  | false =>
      have padded : OneLine (padRight width entry.key) := single.append (oneLine_spaces _)
      have value := ((padded.shifts _).append equals).append shifts
      simp only [Bool.false_eq_true, ↓reduceIte, printedAssignment, String.append_assoc] at value ⊢
      exact ⟨rfl, shiftsBelow_indent value (begins_indent_succ level _)⟩

/-- By induction on the outline, at all levels at once. -/
theorem Unbroken.shifts_print {outline : Outline} (unbroken : Unbroken outline)
    (options : RenderOptions) (level more : Nat) :
    Shifts (2 * more) (print options level outline) (print options (level + more) outline) := by
  induction unbroken generalizing level with
  | literal single => exact single.shifts _
  | @list items _ ih =>
      simp only [print, printAll_eq_map]
      apply shifts_bracketed
      rw [List.forall₂_map_left_iff, List.forall₂_map_right_iff, List.forall₂_same,
        Nat.add_right_comm]
      exact fun item inside => ih item inside (level + 1)
  | @body marker parts keys _ ih =>
      rw [print_body, print_body]
      apply shifts_enclosed
      rw [List.forall₂_map_left_iff, List.forall₂_map_right_iff, List.forall₂_same]
      intro entry inside
      apply movedEntry_printEntry options level _ (keys entry inside)
      rw [Nat.add_right_comm]
      exact ih entry inside (level + 1)

end Outline

/-! ### Values without line ends -/

/-- Wherever the rendering of the call comes to, the strings and keys of the value there are on one
line, and so is the text with which a resolver that is asked there answers directly. -/
structure Call.Unbroken (resolver : Resolver) (resourceType : String) (call : Call) : Prop where
  texts : ∀ reached, Relation.ReflTransGen (Calls resolver resourceType) call reached →
    ∀ text ∈ reached.value.texts, OneLine text
  answers : ∀ label alternatives value unions text,
    Relation.ReflTransGen (Calls resolver resourceType) call
      ⟨.union label alternatives, value, unions⟩ → unions < resolutionLimit →
    (resolver resourceType (.union label alternatives) value).answer = .ok (.direct text) →
      OneLine text

section Elaboration

variable {resolver : Resolver} {resourceType : String}

theorem Call.Unbroken.inner {call inner : Call} (unbroken : call.Unbroken resolver resourceType)
    (calls : Calls resolver resourceType call inner) : inner.Unbroken resolver resourceType where
  texts reached chain := unbroken.texts reached (.head calls chain)
  answers label alternatives value unions text chain :=
    unbroken.answers label alternatives value unions text (.head calls chain)

namespace Outline

variable {child : Elaborator} {call : Call}

/-- Wherever the call stands, its outline has no line ends of its own. -/
def Unbreaking (child : Elaborator) (call : Call) : Prop :=
  ∀ location outcome, child call.schema call.value location call.unions = .ok outcome →
    outcome.content.Unbroken

theorem unbroken_elaborateList {unions : Nat} {label : Label} {element : Schema} {value : Value}
    (inner : ∀ further, Calls resolver resourceType ⟨.list label element, value, unions⟩ further →
      Unbreaking child further) {location : Location} {outcome : Collected Outline}
    (elaborated : elaborateList child element value location = .ok outcome) :
    outcome.content.Unbroken := by
  unfold elaborateList at elaborated
  cases isList : value.asList? with
  | none =>
      rw [isList] at elaborated
      cases elaborated
  | some items =>
      rw [isList] at elaborated
      cases Value.asList?_eq_some_iff.mp isList
      obtain ⟨contents, contentsAre, same⟩ := bind_eq_ok_iff.mp elaborated
      cases same
      refine .list fun content inside => ?_
      obtain ⟨collected, among, rfl⟩ := List.mem_map.mp inside
      obtain ⟨item, isItem, position, contentIs⟩ :=
        exists_left_of_mem (forall₂_of_forEachFrom contentsAre) among
      exact inner ⟨element, item, 0⟩ (.element isItem) _ collected contentIs

/-- The entries of one member of an object, each at the key of the member. -/
theorem unbroken_of_contributes {unions : Nat} {schema : Schema} {schemas : MemberSchemas}
    {members : List (String × Value)} (isObject : memberSchemas? schema = some schemas)
    (inner : ∀ further, Calls resolver resourceType ⟨schema, .object members, unions⟩ further →
      Unbreaking child further) {location : Location} {member : String × Value} {part : Part}
    (inside : member ∈ present members) (single : OneLine member.1)
    (contributes : Contributes child schemas location member part) :
    ∀ entry ∈ part.entries, OneLine entry.key ∧ entry.content.Unbroken := by
  intro entry among
  cases contributes with
  | assignment found unmarked alone elaborated =>
      cases List.mem_singleton.mp among
      refine ⟨?_, inner _ (.member isObject inside found alone) _ _ elaborated⟩
      unfold attributeKey
      split
      · exact oneLine_literal single
      · exact single
  | block found marked elaborated =>
      cases List.mem_singleton.mp among
      have alone := Schema.not_repeatsBlock_of_block marked
      exact ⟨single, inner _ (.member isObject inside found alone) _ _ elaborated⟩
  | blocks found repeated isList elaborated =>
      obtain ⟨content, isContent, rfl⟩ := List.mem_map.mp among
      obtain ⟨item, isItem, position, companions, contentIs⟩ :=
        exists_left_of_mem elaborated isContent
      obtain ⟨key, value⟩ := member
      cases isList
      exact ⟨single, inner ⟨_, item, 0⟩ (.repeated isObject inside found repeated isItem) _ _
        contentIs⟩

theorem unbroken_elaborateObject {unions : Nat} {schema : Schema} {schemas : MemberSchemas}
    {value : Value} (isObject : memberSchemas? schema = some schemas)
    (inner : ∀ further, Calls resolver resourceType ⟨schema, value, unions⟩ further →
      Unbreaking child further) (texts : ∀ text ∈ value.texts, OneLine text) {location : Location}
    {outcome : Collected Outline}
    (elaborated : elaborateObject child schema schemas value location = .ok outcome) :
    outcome.content.Unbroken := by
  cases isMembers : value.asObject? with
  | none =>
      rw [elaborateObject, isMembers] at elaborated
      cases elaborated
  | some members =>
      cases Value.asObject?_eq_some_iff.mp isMembers
      obtain ⟨parts, isBody, contributes⟩ := contributes_of_elaborateObject elaborated
      have each (entry : OutlineEntry) (inside : entry ∈ parts.flatMap Part.entries) :
          OneLine entry.key ∧ entry.content.Unbroken := by
        obtain ⟨part, isPart, among⟩ := List.mem_flatMap.mp inside
        obtain ⟨member, isPresent, contributed⟩ := exists_left_of_mem contributes isPart
        have single : OneLine member.1 :=
          texts _ (Value.mem_texts_object (mem_present.mp isPresent).1 List.mem_cons_self)
        exact unbroken_of_contributes isObject inner isPresent single contributed entry among
      rw [isBody]
      exact .body (fun entry inside => (each entry inside).1) fun entry inside =>
        (each entry inside).2

theorem unbroken_elaborateUnion {unions : Nat} {label : Label} {alternatives : List Schema}
    {value : Value}
    (inner : ∀ further, Calls resolver resourceType ⟨.union label alternatives, value, unions⟩
      further → Unbreaking child further)
    (direct : ∀ text, unions < resolutionLimit →
      (resolver resourceType (.union label alternatives) value).answer = .ok (.direct text) →
        OneLine text)
    {location : Location} {outcome : Collected Outline}
    (elaborated : elaborateUnion child resolver resourceType (.union label alternatives) value
      location unions = .ok outcome) : outcome.content.Unbroken := by
  unfold elaborateUnion at elaborated
  by_cases deep : resolutionLimit ≤ unions
  · rw [if_pos deep] at elaborated
    cases elaborated
  · have few : unions < resolutionLimit := Nat.not_le.mp deep
    rw [if_neg deep] at elaborated
    cases answered : (resolver resourceType (.union label alternatives) value).answer with
    | error source =>
        simp only [answered] at elaborated
        cases elaborated
    | ok resolution =>
        simp only [answered] at elaborated
        cases resolution with
        | direct text =>
            cases elaborated
            exact .literal (direct text few answered)
        | indirect next within =>
            obtain ⟨rest, restIs, same⟩ := bind_eq_ok_iff.mp elaborated
            cases same
            exact inner ⟨next, within, unions + 1⟩ (.answer few answered) location rest restIs

/-- By induction on the nesting, for all calls that bring no line ends. -/
theorem unbreaking_elaborate (nesting : Nat) :
    ∀ call : Call, call.Unbroken resolver resourceType →
      Unbreaking (elaborate resolver resourceType nesting) call := by
  induction nesting with
  | zero =>
      intro call _ location outcome elaborated
      cases elaborated
  | succ nesting ih =>
      intro call unbroken location outcome elaborated
      have inner (further : Call) (calls : Calls resolver resourceType call further) :
          Unbreaking (elaborate resolver resourceType nesting) further :=
        ih further (unbroken.inner calls)
      have texts := unbroken.texts call .refl
      obtain ⟨schema, value, unions⟩ := call
      cases schema with
      | scalar label kind =>
          cases kind with
          | string =>
              cases value with
              | string text =>
                  cases elaborated
                  exact .literal (oneLine_literal (texts text (by simp [Value.texts])))
              | null | bool | number | list | object => cases elaborated
          | boolean =>
              cases elaborated
              apply Unbroken.literal
              split <;> decide
          | number =>
              cases elaborated
              exact .literal (word_numberText value).oneLine
      | list label element => exact unbroken_elaborateList inner elaborated
      | dictionary label element => exact unbroken_elaborateObject rfl inner texts elaborated
      | record label fields => exact unbroken_elaborateObject rfl inner texts elaborated
      | union label alternatives =>
          exact unbroken_elaborateUnion inner
            (fun text => unbroken.answers _ _ _ _ text .refl) elaborated

end Outline
end Elaboration

/-! ### The structural resolver -/

/-- It answers with the value it was asked about, so nothing is written that is not in there. -/
theorem Calls.texts_subset {resourceType : String} {call inner : Call}
    (calls : Calls Resolver.structural resourceType call inner) :
    ∀ text ∈ inner.value.texts, text ∈ call.value.texts := by
  intro text written
  cases calls with
  | element inside => exact Value.mem_texts_list inside written
  | member _ inside =>
      exact Value.mem_texts_object (mem_present.mp inside).1 (List.mem_cons_of_mem _ written)
  | repeated _ inside _ _ among =>
      exact Value.mem_texts_object (mem_present.mp inside).1
        (List.mem_cons_of_mem _ (Value.mem_texts_list among written))
  | @answer _ label alternatives value _ _ _ answered =>
      rcases Resolver.structural_union resourceType label alternatives value with
        ⟨_, _, is⟩ | ⟨_, ⟨_, _, is⟩ | ⟨_, is⟩⟩
      · rw [is] at answered
        cases answered
      · rw [is] at answered
        cases answered
        exact written
      · rw [is] at answered
        cases answered

theorem Call.unbroken_structural (resourceType : String) {call : Call}
    (single : ∀ text ∈ call.value.texts, OneLine text) :
    call.Unbroken Resolver.structural resourceType := by
  have below (reached : Call)
      (chain : Relation.ReflTransGen (Calls Resolver.structural resourceType) call reached) :
      ∀ text ∈ reached.value.texts, OneLine text := by
    induction chain with
    | refl => exact single
    | tail _ last ih => exact fun text written => ih text (last.texts_subset text written)
  refine ⟨below, ?_⟩
  intro label alternatives value unions text chain _ answered
  have texts := below _ chain
  rcases Resolver.structural_union resourceType label alternatives value with
    ⟨written, rfl, is⟩ | ⟨_, ⟨_, _, is⟩ | ⟨_, is⟩⟩
  · rw [is] at answered
    cases answered
    exact texts text (by simp [Resolver.expression, Value.texts, Value.textsOfMembers])
  · rw [is] at answered
    cases answered
  · rw [is] at answered
    cases answered

/-! ### Renderings -/

def Rendered.moved (more : Nat) (rendered : Rendered) : Rendered :=
  ⟨indentLines (2 * more) rendered.text, rendered.companions⟩

/--
Rendering does not depend on the place of the value. Whatever the resolver, the options and the
nesting, a value gives the same companions or the same error some levels deeper. It gives the same
text as well, moved by two spaces for each level, if no string, key or answered text that comes up
has a line end in it.
-/
theorem renderNode_deeper (renderer : Renderer) (resourceType : String) (nesting : Nat)
    (schema : Schema) (value : Value) (level more : Nat) (location : Location) (depth : Nat) :
    ((renderer.renderNode resourceType nesting schema value (level + more) location depth).map
        Rendered.companions =
      (renderer.renderNode resourceType nesting schema value level location depth).map
        Rendered.companions) ∧
    (Call.Unbroken renderer.resolver resourceType ⟨schema, value, depth⟩ →
      renderer.renderNode resourceType nesting schema value (level + more) location depth =
        (renderer.renderNode resourceType nesting schema value level location depth).map
          (Rendered.moved more)) := by
  rw [Outline.renderNode_prints, Outline.renderNode_prints]
  cases elaborated : Outline.elaborate renderer.resolver resourceType nesting schema value location
      depth with
  | error error => exact ⟨rfl, fun _ => rfl⟩
  | ok outcome =>
      refine ⟨rfl, fun unbroken => ?_⟩
      have content := Outline.unbreaking_elaborate nesting ⟨schema, value, depth⟩ unbroken location
        outcome elaborated
      have text := (content.shifts_print renderer.options level more).indentLines_eq
      simp only [Except.map, Outline.rendering, Rendered.moved, text]

def gridFields : List (Field Schema) :=
  [⟨"grid", true, .list {} (.list {} (.scalar {} .number))⟩,
    ⟨"rule", false, .list {} (.record ⟨.block, none⟩ [⟨"name", true, .scalar {} .string⟩])⟩,
    ⟨"tags", false, .dictionary {} (.union {} [.scalar {} .string])⟩]

def gridRecord : Schema := .record ⟨.resource, none⟩ gridFields

/-- Lists in a list, two blocks, and a raw expression in a dictionary. -/
def gridValue : Value :=
  .object [("grid", .list [.list [.number (.int 1)], .list []]),
    ("rule", .list [.object [("name", .string "a")], .object [("name", .string "b")]]),
    ("tags", .object [("owner", .object [("$expr", .string "var.owner")])])]

def gridText : String :=
  "\x7b\n    grid = [\n      [\n        1,\n      ],\n      [],\n    ]\n\n" ++
    "    rule \x7b\n      name = \"a\"\n    \x7d\n\n" ++
    "    rule \x7b\n      name = \"b\"\n    \x7d\n\n" ++
    "    tags = =\n      \"owner\" = var.owner\n  \x7d"

theorem gridValue_deeper :
    Call.Unbroken Resolver.structural "service" ⟨gridRecord, gridValue, 0⟩ ∧
      Renderer.renderNode {} "service" 4 gridRecord gridValue 1 (.root "service") 0 =
        .ok ⟨gridText, []⟩ ∧
      Renderer.renderNode {} "service" 4 gridRecord gridValue 3 (.root "service") 0 =
        .ok ⟨indentLines 4 gridText, []⟩ := by
  have unbroken : Call.Unbroken Resolver.structural "service" ⟨gridRecord, gridValue, 0⟩ :=
    Call.unbroken_structural "service" (by decide)
  have shallow : Renderer.renderNode {} "service" 4 gridRecord gridValue 1 (.root "service") 0 =
      .ok ⟨gridText, []⟩ := rfl
  have deeper :=
    (renderNode_deeper {} "service" 4 gridRecord gridValue 1 2 (.root "service") 0).2 unbroken
  rw [shallow] at deeper
  exact ⟨unbroken, shallow, deeper⟩

end Stanza
