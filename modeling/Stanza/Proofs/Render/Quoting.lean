import Stanza.Proofs.Render.Steps
import Stanza.Proofs.Text.Literals

set_option autoImplicit false

/-!
Where renderings quote: strings, and the keys of dictionaries whose values are attributes. A
string can leave its literal only by its own quotes, backslashes and line ends. Two members of
a dictionary share a written key only when their keys differ in escaped openings alone.
-/

namespace Stanza

open Render Text

namespace Render

/-! ### Dictionaries of attributes -/

/-- The keys of the members that are not null, as they are written. -/
def quotedKeys (members : List (String × Value)) : List String :=
  (present members).map fun member => literal member.1

/-- One attribute for each key, with the keys padded to the longest of them. -/
def attributes (level : Nat) (keys : List String) (values : List Rendered) : List Entry :=
  List.zipWith (attributeEntry level ((keys.map String.length).foldl max 0)) keys values

theorem membersOf_uniform (element : Schema) (location : Location)
    (members : List (String × Value)) :
    membersOf (.uniform element) location members =
      .ok ((present members).map fun member => ⟨member.1, member.2, element⟩) := by
  rw [membersOf_eq_ok_iff, List.forall₂_map_right_iff, List.forall₂_same]
  exact fun _ _ => ⟨rfl, rfl, rfl⟩

theorem keyWidth_uniform {element : Schema} (single : element.blockSchema? = none)
    (members : List (String × Value)) :
    keyWidth true ((present members).map fun member => ⟨member.1, member.2, element⟩) =
      ((quotedKeys members).map String.length).foldl max 0 := by
  have each : (fun member : String × Value => Member.width true ⟨member.1, member.2, element⟩) =
      fun member => (literal member.1).length := by
    funext member
    simp only [Member.width, single]
    rfl
  rw [keyWidth, quotedKeys, List.map_map, List.map_map]
  exact congrArg (fun widths => (widths : List Nat).foldl max 0) (congrArg (List.map · _) each)

theorem renderMember_attribute {child : Child} {quoted : Bool} {width level : Nat}
    {location : Location} {member : Member} {group : List Entry}
    (single : member.schema.blockSchema? = none)
    (renders : renderMember child quoted width level location member = .ok group) :
    ∃ value, group = [attributeEntry level width (attributeKey quoted member.key) value] := by
  simp only [renderMember, single] at renders
  obtain ⟨value, _, same⟩ := bind_eq_ok_iff.mp renders
  exact ⟨value, (Except.ok.inj same).symm⟩

theorem exists_attributes {child : Child} {element : Schema} {width level : Nat}
    {location : Location} (single : element.blockSchema? = none)
    {members : List (String × Value)} {groups : List (List Entry)}
    (renders : List.Forall₂ (fun member group => renderMember child true width level location
      ⟨member.1, member.2, element⟩ = .ok group) members groups) :
    ∃ values, values.length = members.length ∧ groups.flatten =
      List.zipWith (attributeEntry level width) (members.map fun member => literal member.1)
        values := by
  induction renders with
  | nil => exact ⟨[], rfl, rfl⟩
  | @cons member group rest others here _ ih =>
      obtain ⟨value, rfl⟩ := renderMember_attribute single here
      obtain ⟨values, sameLength, flat⟩ := ih
      refine ⟨value :: values, by rw [List.length_cons, sameLength, List.length_cons], ?_⟩
      rw [List.flatten_cons, flat]
      rfl

theorem renderNode_dictionary_eq_ok {renderer : Renderer} {resourceType : String} {nesting : Nat}
    {label : Label} {element : Schema} {members : List (String × Value)} {level : Nat}
    {location : Location} {depth : Nat} {rendered : Rendered}
    (single : element.blockSchema? = none)
    (done : renderer.renderNode resourceType nesting (.dictionary label element) (.object members)
      level location depth = .ok rendered) :
    ∃ values, values.length = (present members).length ∧ rendered.text =
      bodyText (label.marker.isBraced || renderer.options.attributeObjects == .braced) level
        (joinEntries (attributes (level + 1) (quotedKeys members) values)) := by
  cases nesting with
  | zero => cases done
  | succ nesting =>
      obtain ⟨found, foundAre, tail⟩ := bind_eq_ok_iff.mp done
      obtain ⟨groups, groupsAre, same⟩ := bind_eq_ok_iff.mp tail
      rw [membersOf_uniform] at foundAre
      cases foundAre
      cases same
      rw [mapM_eq_ok_iff, List.forall₂_map_left_iff] at groupsAre
      obtain ⟨values, sameLength, flat⟩ := exists_attributes single groupsAre
      refine ⟨values, sameLength, ?_⟩
      have width := keyWidth_uniform single members
      rw [attributes, ← width]
      exact congrArg (fun entries => bodyText _ level (joinEntries entries)) flat

/-! ### Distinct keys -/

theorem nodup_quotedKeys_iff (members : List (String × Value)) :
    (quotedKeys members).Nodup ↔ (present members).Pairwise fun first second =>
      ¬ EscapedAlike false first.1.toList second.1.toList := by
  rw [quotedKeys, List.Nodup, List.pairwise_map]
  simp only [ne_eq, literal_eq_literal_iff]

/--
A dictionary of attributes is written with one attribute for each member that is not null, at
the literal of its key. These literals are distinct exactly when no two of the keys differ in
escaped openings alone, and so in particular when the keys are distinct and none of them holds
an escaped opening.
-/
theorem dictionary_keys_distinct_iff {renderer : Renderer} {resourceType : String}
    {nesting : Nat} {label : Label} {element : Schema} {members : List (String × Value)}
    {level : Nat} {location : Location} {depth : Nat} {rendered : Rendered}
    (single : element.blockSchema? = none)
    (done : renderer.renderNode resourceType nesting (.dictionary label element) (.object members)
      level location depth = .ok rendered) :
    (∃ values, values.length = (present members).length ∧ rendered.text =
      bodyText (label.marker.isBraced || renderer.options.attributeObjects == .braced) level
        (joinEntries (attributes (level + 1) (quotedKeys members) values))) ∧
      ((quotedKeys members).Nodup ↔ (present members).Pairwise fun first second =>
        ¬ EscapedAlike false first.1.toList second.1.toList) ∧
      (((present members).map Prod.fst).Nodup →
        (∀ member ∈ present members, ¬ escapedOpening <:+: member.1.toList) →
          (quotedKeys members).Nodup) := by
  refine ⟨renderNode_dictionary_eq_ok single done, nodup_quotedKeys_iff members, ?_⟩
  intro distinct unescaped
  rw [nodup_quotedKeys_iff]
  refine (List.pairwise_map.mp distinct).imp_of_mem ?_
  intro first second firstIn secondIn different alike
  apply different
  rw [← String.toList_inj]
  exact alike.eq_of_not_isInfix (unescaped first firstIn) (unescaped second secondIn)

def openingMembers : List (String × Value) :=
  [("$\x7ba\x7d", .number (.int 1)), ("b$", .number (.int 2)), ("c", .null)]

theorem openingMembers_distinct :
    (quotedKeys openingMembers).Nodup ∧
      ∃ values, values.length = 2 ∧ "=\n  \"$$\x7ba\x7d\" = 1\n  \"b$\"    = 2" =
        bodyText false 0 (joinEntries (attributes 1 (quotedKeys openingMembers) values)) := by
  obtain ⟨written, _, distinct⟩ := dictionary_keys_distinct_iff
    (rfl : (Schema.scalar {} .number).blockSchema? = none)
    (rfl : ({} : Renderer).renderNode "service" 2 (.dictionary {} (.scalar {} .number))
      (.object openingMembers) 0 (.root "service") 0 =
        .ok ⟨"=\n  \"$$\x7ba\x7d\" = 1\n  \"b$\"    = 2", []⟩)
  exact ⟨distinct (by decide) (by decide), written⟩

/-- A key that is escaped already is written as the key that it escapes. -/
theorem escaped_key_written_twice :
    ¬ ∀ (renderer : Renderer) resourceType label element members location rendered,
      element.blockSchema? = none → (members.map Prod.fst).Nodup →
        renderer.renderAt resourceType (.dictionary label element) (.object members) location =
            .ok rendered →
          (quotedKeys members).Nodup := by
  intro distinct
  have twice := distinct {} "service" {} (.scalar {} .number)
    [("$\x7ba", .number (.int 1)), ("$$\x7ba", .number (.int 2))] (.root "service")
    ⟨"=\n  \"$$\x7ba\" = 1\n  \"$$\x7ba\" = 2", []⟩ rfl (by decide) rfl
  exact absurd twice (by decide)

/-! ### Strings within their literals -/

/--
A string is written as the literal of its text, and a dictionary of attributes with the
literals of its keys. No interpolation opens in a literal. It is one line that its last
character and no other closes exactly when the text has no line end, every double quote in it
is escaped by a backslash, and no backslash at its end escapes what follows.
-/
theorem written_literals (renderer : Renderer) (resourceType : String) (nesting : Nat)
    (level : Nat) (location : Location) (depth : Nat) :
    (∀ label text, renderer.renderNode resourceType (nesting + 1) (.scalar label .string)
      (.string text) level location depth = .ok ⟨literal text, []⟩) ∧
      (∀ label element members rendered, element.blockSchema? = none →
        renderer.renderNode resourceType nesting (.dictionary label element) (.object members)
            level location depth = .ok rendered →
          ∃ values, values.length = (present members).length ∧ rendered.text =
            bodyText (label.marker.isBraced || renderer.options.attributeObjects == .braced) level
              (joinEntries (attributes (level + 1)
                ((present members).map fun member => literal member.1) values))) ∧
      ∀ text, (∀ position, ¬ Opens (literal text).toList position) ∧
        (IsLiteral (literal text).toList ↔ FitsLiteral text.toList) :=
  ⟨fun _ _ => rfl, fun _ _ _ _ single done => renderNode_dictionary_eq_ok single done,
    fun text => ⟨not_opens_literal text, isLiteral_literal_iff text⟩⟩

theorem escaped_quote_contained :
    IsLiteral (literal "say \\\"$\x7bhi\x7d\\\"").toList ∧
      ∃ values, values.length = 2 ∧ "=\n  \"$$\x7ba\x7d\" = 1\n  \"b$\"    = 2" =
        bodyText false 0 (joinEntries (attributes 1 (quotedKeys openingMembers) values)) := by
  obtain ⟨_, dictionaries, literals⟩ := written_literals {} "service" 2 0 (.root "service") 0
  exact ⟨(literals "say \\\"$\x7bhi\x7d\\\"").2.mpr (by decide),
    dictionaries {} (.scalar {} .number) openingMembers _ rfl rfl⟩

/-- Quotes are written as they stand, so that a quote in a string closes its literal. -/
theorem quote_closes_literal :
    ({} : Renderer).renderAt "service" (.scalar {} .string) (.string "a\"b") (.root "service") =
        .ok ⟨"\"a\"b\"", []⟩ ∧
      ¬ IsLiteral "\"a\"b\"".toList := by
  refine ⟨rfl, fun isLiteral => ?_⟩
  have early := (isLiteral.delimited 2).mp ⟨by decide, by decide⟩
  exact absurd early (by decide)

end Render
end Stanza
