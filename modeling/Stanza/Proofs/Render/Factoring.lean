import Stanza.Proofs.Render.Outline

set_option autoImplicit false

/-!
Rendering is elaboration followed by printing, for any resolver and at any level: the text
is the printed outline, and companions and errors are those of the elaboration.
-/

namespace Stanza

open Render

namespace Outline

/-! ### Printing piece by piece -/

theorem printAll_eq_map (options : RenderOptions) (level : Nat) (outlines : List Outline) :
    printAll options level outlines = outlines.map (print options level) := by
  induction outlines with
  | nil => rfl
  | cons outline rest ih => simp only [printAll, List.map_cons, ih]

theorem printParts_eq_flatMap (options : RenderOptions) (level width : Nat)
    (parts : List Part) :
    printParts options level width parts = parts.flatMap (printPart options level width) := by
  induction parts with
  | nil => rfl
  | cons part rest ih => simp only [printParts, List.flatMap_cons, ih]

theorem printPart_eq_map_entries (options : RenderOptions) (level width : Nat) (part : Part) :
    printPart options level width part = part.entries.map (printEntry options level width) := by
  cases part with
  | assignment key value => rfl
  | block key content => rfl
  | blocks key contents =>
      simp only [printPart, printAll_eq_map, Part.entries, List.map_map]
      rfl

/-- A body is laid out entry by entry; only the padding looks at the parts behind them. -/
theorem print_body (options : RenderOptions) (level : Nat) (marker : Marker)
    (parts : List Part) :
    print options level (.body marker parts) =
      enclosed (isEnclosed options marker) level
        ((parts.flatMap Part.entries).map
          (printEntry options (level + 1) (columnWidth parts))) := by
  have each : printPart options (level + 1) (columnWidth parts) = fun part =>
      part.entries.map (printEntry options (level + 1) (columnWidth parts)) :=
    funext (printPart_eq_map_entries options (level + 1) (columnWidth parts))
  rw [print, printParts_eq_flatMap, List.map_flatMap, each]

theorem listText_eq_bracketed (level : Nat) (items : List String) :
    listText level items = bracketed level items := by
  cases items <;> rfl

def printedEntry (entry : Entry) : Printed := (entry.isBlock, entry.text)

theorem joinEntries_eq_stack (entries : List Entry) :
    joinEntries entries = stack (entries.map printedEntry) := by
  induction entries with
  | nil => rfl
  | cons entry rest ih =>
      cases rest with
      | nil => rfl
      | cons next others =>
          simp only [joinEntries, List.map_cons, stack, printedEntry] at ih ⊢
          rw [ih]

theorem stack_ne_empty {entry : Printed} {rest : List Printed} (written : entry.2 ≠ "") :
    stack (entry :: rest) ≠ "" := by
  cases rest with
  | nil => exact written
  | cons next others =>
      intro empty
      simp only [stack, String.append_eq_empty_iff] at empty
      exact written empty.1.1

/-- No printed entry is empty, so only a body without entries is. -/
theorem bodyText_stack_eq_enclosed (braced : Bool) (level : Nat) (entries : List Printed)
    (written : ∀ entry ∈ entries, entry.2 ≠ "") :
    bodyText braced level (stack entries) = enclosed braced level entries := by
  cases entries with
  | nil => cases braced <;> rfl
  | cons entry rest =>
      have notEmpty : stack (entry :: rest) ≠ "" := stack_ne_empty (written entry (by simp))
      cases braced with
      | false => simp only [bodyText, enclosed, if_neg notEmpty]; rfl
      | true => simp only [bodyText, enclosed, if_neg notEmpty, String.append_assoc]; rfl

theorem printedBlock_ne_empty (level : Nat) (key text : String) :
    (printedBlock level key text).2 ≠ "" := by
  simp [printedBlock, String.append_eq_empty_iff]

theorem printedAssignment_ne_empty (level width : Nat) (key text : String) :
    (printedAssignment level width key text).2 ≠ "" := by
  simp [printedAssignment, String.append_eq_empty_iff]

theorem printPart_ne_empty (options : RenderOptions) (level width : Nat) (part : Part) :
    ∀ entry ∈ printPart options level width part, entry.2 ≠ "" := by
  intro entry member
  cases part with
  | assignment key value =>
      simp only [printPart, List.mem_singleton] at member
      subst member
      exact printedAssignment_ne_empty _ _ _ _
  | block key content =>
      simp only [printPart, List.mem_singleton] at member
      subst member
      exact printedBlock_ne_empty _ _ _
  | blocks key contents =>
      simp only [printPart, List.mem_map] at member
      obtain ⟨text, _, rfl⟩ := member
      exact printedBlock_ne_empty _ _ _

/-! ### Pieces of a rendering against pieces of an elaboration -/

def rendering (options : RenderOptions) (level : Nat) (outcome : Collected Outline) : Rendered :=
  ⟨outcome.content.print options level, outcome.companions⟩

/-- A way to render children prints what a way to elaborate them finds. -/
def Prints (options : RenderOptions) (child : Child) (elaborator : Elaborator) : Prop :=
  ∀ schema value level location depth,
    child schema value level location depth =
      (elaborator schema value location depth).map (rendering options level)

theorem forEachFrom_map {ε α β γ : Type} {handle : Nat → α → Except ε β}
    {other : Nat → α → Except ε γ} {change : γ → β}
    (same : ∀ index item, handle index item = (other index item).map change)
    (index : Nat) (items : List α) :
    forEachFrom handle index items = (forEachFrom other index items).map (List.map change) := by
  induction items generalizing index with
  | nil => rfl
  | cons item rest ih =>
      rw [forEachFrom, forEachFrom, same, ih]
      cases other index item with
      | error error => rfl
      | ok first =>
          cases forEachFrom other (index + 1) rest with
          | error error => rfl
          | ok others => rfl

theorem texts_rendering (options : RenderOptions) (level : Nat)
    (outcomes : List (Collected Outline)) :
    (outcomes.map (rendering options level)).map Rendered.text =
      printAll options level (outcomes.map Collected.content) := by
  rw [printAll_eq_map, List.map_map, List.map_map]
  rfl

theorem gather_rendering (options : RenderOptions) (level : Nat)
    (outcomes : List (Collected Outline)) :
    gather (outcomes.map (rendering options level)) = collect outcomes := by
  simp only [gather, collect, List.flatMap_map]
  rfl

def summary (entries : List Entry) : List Printed × List String :=
  (entries.map printedEntry, entries.flatMap Entry.companions)

def partSummary (options : RenderOptions) (level width : Nat) (part : Collected Part) :
    List Printed × List String :=
  (printPart options level width part.content, part.companions)

theorem summary_blocks (options : RenderOptions) (level width : Nat) (key : String)
    (outcomes : List (Collected Outline)) :
    summary (outcomes.map fun outcome => blockEntry level key (rendering options level outcome)) =
      partSummary options level width
        ⟨.blocks key (outcomes.map Collected.content), collect outcomes⟩ := by
  simp only [summary, partSummary, printPart, printAll_eq_map, collect, List.map_map,
    List.flatMap_map]
  rfl

theorem summary_flatten (groups : List (List Entry)) :
    summary groups.flatten =
      ((groups.map summary).flatMap Prod.fst, (groups.map summary).flatMap Prod.snd) := by
  induction groups with
  | nil => rfl
  | cons group rest ih =>
      simp only [summary, Prod.mk.injEq] at ih
      simp only [summary, List.flatten_cons, List.map_append, List.flatMap_append,
        List.map_cons, List.flatMap_cons, ih.1, ih.2]

theorem key_elaborateMember {elaborator : Elaborator} {quoted : Bool}
    {location : Location} {member : Member}
    {part : Collected Part}
    (elaborated : elaborateMember elaborator quoted location member = .ok part) :
    part.content.key.length = member.width quoted := by
  unfold elaborateMember at elaborated
  unfold Member.width
  rcases Schema.blockSchema?_cases member.schema with
    ⟨_, isBlock⟩ | ⟨block, _, isRepeated⟩ | ⟨_, _, isAssigned⟩
  · simp only [isBlock] at elaborated ⊢
    obtain ⟨content, _, same⟩ := bind_eq_ok_iff.mp elaborated
    cases same
    rfl
  · simp only [isRepeated] at elaborated ⊢
    cases isList : member.value.asList? with
    | none =>
        rw [isList] at elaborated
        cases elaborated
    | some items =>
        rw [isList] at elaborated
        obtain ⟨contents, _, same⟩ := bind_eq_ok_iff.mp elaborated
        cases same
        rfl
  · simp only [isAssigned] at elaborated ⊢
    obtain ⟨content, _, same⟩ := bind_eq_ok_iff.mp elaborated
    cases same
    rfl

theorem keyWidth_eq_columnWidth {elaborator : Elaborator} {quoted : Bool}
    {location : Location} {members : List Member} {parts : List (Collected Part)}
    (elaborated : members.mapM (elaborateMember elaborator quoted location) = .ok parts) :
    keyWidth quoted members = columnWidth (parts.map Collected.content) := by
  have widths : members.map (Member.width quoted) =
      (parts.map Collected.content).map fun part => part.key.length := by
    have pairs := (mapM_eq_ok_iff _ _ _).mp elaborated
    clear elaborated
    induction pairs with
    | nil => rfl
    | cons first _ ih =>
        simp only [List.map_cons, ih, key_elaborateMember first]
  rw [keyWidth, columnWidth, widths]

theorem body_of_summaries {options : RenderOptions} {level : Nat} {marker : Marker}
    {groups : List (List Entry)} {parts : List (Collected Part)}
    (same : groups.map summary = parts.map
      (partSummary options (level + 1) (columnWidth (parts.map Collected.content)))) :
    (⟨bodyText (isEnclosed options marker) level (joinEntries groups.flatten),
        groups.flatten.flatMap Entry.companions⟩ : Rendered) =
      rendering options level ⟨.body marker (parts.map Collected.content), collect parts⟩ := by
  have whole := summary_flatten groups
  rw [same, summary, Prod.mk.injEq] at whole
  obtain ⟨entries, companions⟩ := whole
  have printed : groups.flatten.map printedEntry =
      printParts options (level + 1) (columnWidth (parts.map Collected.content))
        (parts.map Collected.content) := by
    rw [entries, printParts_eq_flatMap, List.flatMap_map, List.flatMap_map]
    rfl
  have written : ∀ entry ∈ groups.flatten.map printedEntry, entry.2 ≠ "" := by
    rw [printed, printParts_eq_flatMap]
    intro entry member
    obtain ⟨part, _, inside⟩ := List.mem_flatMap.mp member
    exact printPart_ne_empty _ _ _ part entry inside
  have collected : groups.flatten.flatMap Entry.companions = collect parts := by
    rw [companions, List.flatMap_map]
    rfl
  rw [joinEntries_eq_stack, bodyText_stack_eq_enclosed _ _ _ written, printed, collected]
  rfl

section Pieces

variable {options : RenderOptions} {child : Child} {elaborator : Elaborator}
  (prints : Prints options child elaborator)

include prints

theorem renderList_eq (element : Schema) (value : Value) (level : Nat) (location : Location) :
    renderList child element value level location =
      (elaborateList elaborator element value location).map (rendering options level) := by
  unfold renderList elaborateList
  cases value.asList? with
  | none => rfl
  | some items =>
      have same (index : Nat) (item : Value) :
          child element item (level + 1) (location.index index) 0 =
            (elaborator element item (location.index index) 0).map
              (rendering options (level + 1)) := prints _ _ _ _ _
      simp only [forEachFrom_map same]
      cases forEachFrom (fun index item => elaborator element item (location.index index) 0)
          0 items with
      | error error => rfl
      | ok outcomes =>
          simp only [Except.map, bind, Except.bind, pure, Except.pure, texts_rendering,
            gather_rendering, listText_eq_bracketed, rendering, print]

theorem renderMember_eq (quoted : Bool) (width level : Nat) (location : Location)
    (member : Member) :
    (renderMember child quoted width level location member).map summary =
      (elaborateMember elaborator quoted location member).map
        (partSummary options level width) := by
  unfold renderMember elaborateMember
  rcases Schema.blockSchema?_cases member.schema with
    ⟨_, isBlock⟩ | ⟨block, _, isRepeated⟩ | ⟨_, _, isAssigned⟩
  · simp only [isBlock, prints member.schema]
    cases elaborator member.schema member.value (location.key member.key) 0 with
    | error error => rfl
    | ok outcome => simp [summary, partSummary, printPart, printedEntry, blockEntry, rendering,
        printedBlock, Except.map, bind, Except.bind, pure, Except.pure]
  · simp only [isRepeated]
    cases member.value.asList? with
    | none => rfl
    | some items =>
        have same (index : Nat) (item : Value) :
            (do
              let body ← child block item level ((location.key member.key).index index) 0
              pure (blockEntry level member.key body)) =
              (elaborator block item ((location.key member.key).index index) 0).map
                fun outcome => blockEntry level member.key (rendering options level outcome) := by
          rw [prints]
          cases elaborator block item ((location.key member.key).index index) 0 <;> rfl
        simp only [forEachFrom_map same]
        cases forEachFrom (fun index item =>
            elaborator block item ((location.key member.key).index index) 0) 0 items with
        | error error => rfl
        | ok outcomes =>
            simp only [Except.map, bind, Except.bind, pure, Except.pure,
              summary_blocks options level width]
  · simp only [isAssigned, prints member.schema]
    cases elaborator member.schema member.value (location.key member.key) 0 with
    | error error => rfl
    | ok outcome => simp [summary, partSummary, printPart, printedEntry, attributeEntry,
        rendering, printedAssignment, Except.map, bind, Except.bind, pure, Except.pure]

theorem renderObject_eq (schema : Schema) (schemas : MemberSchemas) (value : Value)
    (level : Nat) (location : Location) :
    renderObject child options schema schemas value level location =
      (elaborateObject elaborator schema schemas value location).map
        (rendering options level) := by
  unfold renderObject elaborateObject
  cases value.asObject? with
  | none => rfl
  | some all =>
      simp only
      cases membersOf schemas location all with
      | error error => rfl
      | ok members =>
          have same := map_mapM_congr (renderMember_eq prints schemas.quoteKeys
            (keyWidth schemas.quoteKeys members) (level + 1) location) members
          cases rendered : members.mapM (renderMember child schemas.quoteKeys
              (keyWidth schemas.quoteKeys members) (level + 1) location) with
          | error error =>
              cases elaborated : members.mapM
                  (elaborateMember elaborator schemas.quoteKeys location) with
              | error other =>
                  rw [rendered, elaborated] at same
                  cases same
                  simp only [bind, Except.bind, rendered, elaborated, Except.map]
              | ok parts =>
                  rw [rendered, elaborated] at same
                  cases same
          | ok groups =>
              cases elaborated : members.mapM
                  (elaborateMember elaborator schemas.quoteKeys location) with
              | error other =>
                  rw [rendered, elaborated] at same
                  cases same
              | ok parts =>
                  rw [rendered, elaborated, keyWidth_eq_columnWidth elaborated] at same
                  have summaries := Except.ok.inj same
                  simp only [bind, Except.bind, rendered, elaborated, Except.map, pure,
                    Except.pure]
                  exact congrArg Except.ok (body_of_summaries summaries)

theorem renderUnion_eq (resolver : Resolver) (resourceType : String) (schema : Schema)
    (value : Value) (level : Nat) (location : Location) (depth : Nat) :
    renderUnion child resolver resourceType schema value level location depth =
      (elaborateUnion elaborator resolver resourceType schema value location depth).map
        (rendering options level) := by
  by_cases deep : resolutionLimit ≤ depth
  · simp only [renderUnion, elaborateUnion, if_pos deep]
    rfl
  · simp only [renderUnion, elaborateUnion, if_neg deep]
    cases (resolver resourceType schema value).answer with
    | error source => rfl
    | ok resolution =>
        cases resolution with
        | direct text => rfl
        | indirect next inner =>
            simp only [prints next]
            cases elaborator next inner location (depth + 1) <;> rfl

end Pieces

/-- Rendering prints the elaboration; by induction on the nesting, at all levels at once. -/
theorem renderNode_prints (renderer : Renderer) (resourceType : String) (nesting : Nat) :
    Prints renderer.options (renderer.renderNode resourceType nesting)
      (elaborate renderer.resolver resourceType nesting) := by
  induction nesting with
  | zero =>
      intro schema value level location depth
      rfl
  | succ nesting ih =>
      intro schema value level location depth
      cases schema with
      | scalar label kind =>
          cases kind with
          | string => cases value <;> rfl
          | boolean => rfl
          | number => rfl
      | list label element => exact renderList_eq ih element value level location
      | dictionary label element => exact renderObject_eq ih _ _ value level location
      | record label fields => exact renderObject_eq ih _ _ value level location
      | union label alternatives => exact renderUnion_eq ih _ _ _ value level location depth

/-! ### What each member contributes -/

/--
The part that a member of an object contributes. It is an assignment unless the schema of
the member is a block or repeats one; then it is one block, or one for each element.
-/
inductive Contributes (elaborator : Elaborator) (schemas : MemberSchemas) (location : Location)
    (member : String × Value) : Part → Prop
  | assignment {schema : Schema} {value : Outline} {companions : List String}
      (found : schemas.find? member.1 = some schema) (unmarked : schema.marker ≠ .block)
      (single : ∀ block, ¬ Schema.RepeatsBlock schema block)
      (elaborated : elaborator schema member.2 (location.key member.1) 0 =
        .ok ⟨value, companions⟩) :
      Contributes elaborator schemas location member
        (.assignment (attributeKey schemas.quoteKeys member.1) value)
  | block {schema : Schema} {content : Outline} {companions : List String}
      (found : schemas.find? member.1 = some schema) (marked : schema.marker = .block)
      (elaborated : elaborator schema member.2 (location.key member.1) 0 =
        .ok ⟨content, companions⟩) :
      Contributes elaborator schemas location member (.block member.1 content)
  | blocks {schema block : Schema} {items : List Value} {contents : List Outline}
      (found : schemas.find? member.1 = some schema)
      (repeated : Schema.RepeatsBlock schema block) (isList : member.2 = .list items)
      (elaborated : List.Forall₂ (fun item content => ∃ position companions,
        elaborator block item ((location.key member.1).index position) 0 =
          .ok ⟨content, companions⟩) items contents) :
      Contributes elaborator schemas location member (.blocks member.1 contents)

theorem contributes_of_elaborateMember {elaborator : Elaborator} {schemas : MemberSchemas}
    {location : Location} {member : Member} {part : Collected Part}
    (found : schemas.find? member.key = some member.schema)
    (elaborated : elaborateMember elaborator schemas.quoteKeys location member = .ok part) :
    Contributes elaborator schemas location (member.key, member.value) part.content := by
  unfold elaborateMember at elaborated
  rcases Schema.blockSchema?_cases member.schema with
    ⟨marked, isBlock⟩ | ⟨block, repeated, isRepeated⟩ | ⟨unmarked, single, isAssigned⟩
  · simp only [isBlock] at elaborated
    obtain ⟨content, contentIs, same⟩ := bind_eq_ok_iff.mp elaborated
    cases same
    exact .block found marked contentIs
  · simp only [isRepeated] at elaborated
    cases isList : member.value.asList? with
    | none =>
        rw [isList] at elaborated
        cases elaborated
    | some items =>
        rw [isList] at elaborated
        obtain ⟨contents, contentsAre, same⟩ := bind_eq_ok_iff.mp elaborated
        cases same
        refine .blocks found repeated (Value.asList?_eq_some_iff.mp isList) ?_
        rw [List.forall₂_map_right_iff]
        refine (forall₂_of_forEachFrom contentsAre).imp ?_
        intro item content handled
        obtain ⟨position, contentIs⟩ := handled
        exact ⟨position, content.companions, contentIs⟩
  · simp only [isAssigned] at elaborated
    obtain ⟨value, valueIs, same⟩ := bind_eq_ok_iff.mp elaborated
    cases same
    exact .assignment found unmarked single valueIs

theorem contributes_of_elaborateObject {elaborator : Elaborator} {schema : Schema}
    {schemas : MemberSchemas} {members : List (String × Value)} {location : Location}
    {outcome : Collected Outline}
    (elaborated : elaborateObject elaborator schema schemas (.object members) location =
      .ok outcome) :
    ∃ parts, outcome.content = .body schema.marker parts ∧
      List.Forall₂ (Contributes elaborator schemas location) (present members) parts := by
  obtain ⟨found, foundIs, rest⟩ := bind_eq_ok_iff.mp elaborated
  obtain ⟨parts, partsAre, same⟩ := bind_eq_ok_iff.mp rest
  cases same
  refine ⟨parts.map Collected.content, rfl, ?_⟩
  have sources := (membersOf_eq_ok_iff _ _ _ _).mp foundIs
  have results := (mapM_eq_ok_iff _ _ _).mp partsAre
  clear elaborated rest foundIs partsAre
  generalize present members = shown at sources ⊢
  induction sources generalizing parts with
  | nil =>
      cases results
      exact .nil
  | @cons source member _ _ first _ ih =>
      cases results with
      | cons firstPart otherParts =>
          obtain ⟨isKey, isValue, isSchema⟩ := first
          have here := contributes_of_elaborateMember (isKey ▸ isSchema) firstPart
          rw [isKey, isValue] at here
          exact .cons here (ih _ otherParts)

/--
Rendering factors into elaboration and layout. At every level and under all options the
text is the printed outline, with the companions and the error of the elaboration. The body
of an object has one part for each member that is not null, in the order of the value, and
it is printed entry by entry, with keys padded to the longest key of a part.
-/
theorem renderNode_eq_print_elaborate (renderer : Renderer) (resourceType : String)
    (nesting : Nat) (schema : Schema) (value : Value) (level : Nat) (location : Location)
    (depth : Nat) :
    renderer.renderNode resourceType nesting schema value level location depth =
        (elaborate renderer.resolver resourceType nesting schema value location depth).map
          (fun outcome => ⟨outcome.content.print renderer.options level, outcome.companions⟩) ∧
      (∀ schemas members outcome, memberSchemas? schema = some schemas →
        value = .object members →
        elaborate renderer.resolver resourceType (nesting + 1) schema value location depth =
          .ok outcome →
        ∃ parts, outcome.content = .body schema.marker parts ∧
          List.Forall₂
            (Contributes (elaborate renderer.resolver resourceType nesting) schemas location)
            (present members) parts) ∧
      ∀ marker parts, print renderer.options level (.body marker parts) =
        enclosed (isEnclosed renderer.options marker) level
          ((parts.flatMap Part.entries).map
            (printEntry renderer.options (level + 1) (columnWidth parts))) := by
  refine ⟨renderNode_prints renderer resourceType nesting schema value level location depth,
    ?_, print_body renderer.options level⟩
  rintro schemas members outcome isObject rfl elaborated
  cases schema with
  | dictionary label element =>
      cases isObject
      exact contributes_of_elaborateObject elaborated
  | record label fields =>
      cases isObject
      exact contributes_of_elaborateObject elaborated
  | scalar label kind => cases isObject
  | list label element => cases isObject
  | union label alternatives => cases isObject

def rulesFields : List (Field Schema) :=
  [⟨"a", true, .scalar {} .string⟩, ⟨"rules", false, .list {} (.record ⟨.block, none⟩ [])⟩]

def rulesRecord : Schema := .record ⟨.resource, none⟩ rulesFields

theorem rulesRecord_parts :
    memberSchemas? rulesRecord = some (.declared rulesFields) ∧
      ∃ parts, Outline.body .resource
            [.assignment "a" (.literal "\"x\""), .blocks "rules" [.body .block []]] =
          .body .resource parts ∧
        List.Forall₂ (Contributes (elaborate Resolver.structural "service" 2)
            (.declared rulesFields) (.root "service"))
          (present [("a", .string "x"), ("rules", .list [.object []])]) parts :=
  ⟨rfl, (renderNode_eq_print_elaborate {} "service" 2 rulesRecord
    (.object [("a", .string "x"), ("rules", .list [.object []])]) 0 (.root "service") 0).2.1
      (.declared rulesFields) _ ⟨_, []⟩ rfl rfl rfl⟩

/-! ### The keys of empty blocks -/

/-- A repeated block without elements has no entry, and its key is padded for all the same.
So no layout can do with the marker and the entries of a body alone. -/
theorem entries_do_not_fix_text :
    ¬ ∃ lay : RenderOptions → Nat → Marker → List OutlineEntry → String,
      ∀ (renderer : Renderer) resourceType nesting schema value level location depth marker
          parts companions,
        elaborate renderer.resolver resourceType nesting schema value location depth =
            .ok ⟨.body marker parts, companions⟩ →
          renderer.renderNode resourceType nesting schema value level location depth =
            .ok ⟨lay renderer.options level marker (parts.flatMap Part.entries),
              companions⟩ := by
  rintro ⟨lay, factors⟩
  have withRules := factors {} "service" 3 rulesRecord
    (.object [("a", .string "x"), ("rules", .list [])]) 0 (.root "service") 0 .resource
    [.assignment "a" (.literal "\"x\""), .blocks "rules" []] [] rfl
  have without := factors {} "service" 3 rulesRecord
    (.object [("a", .string "x")]) 0 (.root "service") 0 .resource
    [.assignment "a" (.literal "\"x\"")] [] rfl
  have padded : (⟨"\x7b\n  a     = \"x\"\n\x7d", []⟩ : Rendered) =
      ⟨"\x7b\n  a = \"x\"\n\x7d", []⟩ := by
    exact Except.ok.inj (withRules.trans without.symm)
  exact absurd padded (by decide)

end Outline
end Stanza
