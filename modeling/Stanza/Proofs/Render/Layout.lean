import Stanza.Proofs.Render.NumberWords
import Stanza.Proofs.Render.Steps

set_option autoImplicit false

/-!
Braced renderings are well laid out. Without unions, and with texts and bare keys that do
not interfere with quotes and lines, the brackets nest and every line is indented by the
number of brackets around it, at whatever level the rendering starts.
-/

namespace Stanza

open Render Text

/-! ### What may be laid out -/

namespace Schema

mutual
/-- No union anywhere in the schema. -/
def isUnionFree : Schema → Bool
  | .scalar _ _ => true
  | .list _ element => element.isUnionFree
  | .dictionary _ value => value.isUnionFree
  | .record _ fields => areUnionFree fields
  | .union _ _ => false
termination_by structural schema => schema

def areUnionFree : List (Field Schema) → Bool
  | [] => true
  | ⟨_, _, schema⟩ :: rest => schema.isUnionFree && areUnionFree rest
termination_by structural fields => fields
end

theorem isUnionFree_of_mem {fields : List (Field Schema)} {field : Field Schema}
    (unionFree : areUnionFree fields = true) (member : field ∈ fields) :
    field.schema.isUnionFree = true := by
  induction fields with
  | nil => cases member
  | cons first rest ih =>
      obtain ⟨here, later⟩ := (Bool.and_eq_true _ _).mp unionFree
      rcases List.mem_cons.mp member with rfl | inside
      · exact here
      · exact ih later inside

theorem isUnionFree_of_find? {schema found : Schema} {schemas : MemberSchemas} {key : String}
    (unionFree : schema.isUnionFree = true) (object : memberSchemas? schema = some schemas)
    (foundIs : schemas.find? key = some found) : found.isUnionFree = true := by
  cases schema with
  | dictionary _ value =>
      cases object
      cases foundIs
      exact unionFree
  | record _ fields =>
      cases object
      obtain ⟨field, member, _, rfl⟩ := Field.mem_of_find? foundIs
      exact isUnionFree_of_mem unionFree member
  | scalar | list | union => cases object

end Schema

namespace Value

mutual
/-- All strings in a value, the keys of its objects among them. -/
def texts : Value → List String
  | .string text => [text]
  | .list items => textsOfItems items
  | .object members => textsOfMembers members
  | _ => []
termination_by structural value => value

def textsOfItems : List Value → List String
  | [] => []
  | item :: rest => item.texts ++ textsOfItems rest
termination_by structural items => items

def textsOfMembers : List (String × Value) → List String
  | [] => []
  | (key, value) :: rest => key :: (value.texts ++ textsOfMembers rest)
termination_by structural members => members
end

theorem textsOfItems_eq_flatMap (items : List Value) :
    textsOfItems items = items.flatMap texts := by
  induction items with
  | nil => rfl
  | cons item rest ih => rw [textsOfItems, ih, List.flatMap_cons]

theorem textsOfMembers_eq_flatMap (members : List (String × Value)) :
    textsOfMembers members = members.flatMap fun member => member.1 :: member.2.texts := by
  induction members with
  | nil => rfl
  | cons member rest ih => rw [textsOfMembers, ih, List.flatMap_cons, List.cons_append]

theorem mem_texts_list {items : List Value} {item : Value} {text : String} (inside : item ∈ items)
    (written : text ∈ item.texts) : text ∈ (list items).texts := by
  rw [texts, textsOfItems_eq_flatMap]
  exact List.mem_flatMap.mpr ⟨item, inside, written⟩

theorem mem_texts_object {members : List (String × Value)} {member : String × Value}
    {text : String} (inside : member ∈ members) (written : text ∈ member.1 :: member.2.texts) :
    text ∈ (object members).texts := by
  rw [texts, textsOfMembers_eq_flatMap]
  exact List.mem_flatMap.mpr ⟨member, inside, written⟩

end Value

namespace Render

/-- Whether a member's own key is written without quotes. A list that repeats a block writes
its key once for each element. -/
def writesBareKey (schemas : MemberSchemas) (schema : Schema) (value : Value) : Bool :=
  match schema.blockSchema? with
  | some (_, true) => !(value.asList?.getD []).isEmpty
  | some (_, false) => true
  | none => !schemas.quoteKeys

mutual
/-- The keys that the rendering of a value writes without quotes: those of blocks and those
of the fields of records. -/
def bareKeys (schema : Schema) : Value → List String
  | .list items =>
      match schema with
      | .list _ element => bareKeysOfItems element items
      | _ => []
  | .object members =>
      match memberSchemas? schema with
      | some schemas => bareKeysOfMembers schemas members
      | none => []
  | _ => []
termination_by structural value => value

def bareKeysOfItems (element : Schema) : List Value → List String
  | [] => []
  | item :: rest => bareKeys element item ++ bareKeysOfItems element rest
termination_by structural items => items

def bareKeysOfMembers (schemas : MemberSchemas) : List (String × Value) → List String
  | [] => []
  | (key, value) :: rest =>
      (match schemas.find? key with
        | some schema =>
            if value.isNull then []
            else
              (if writesBareKey schemas schema value then [key] else []) ++ bareKeys schema value
        | none => []) ++ bareKeysOfMembers schemas rest
termination_by structural members => members
end

theorem bareKeysOfItems_eq_flatMap (element : Schema) (items : List Value) :
    bareKeysOfItems element items = items.flatMap (bareKeys element) := by
  induction items with
  | nil => rfl
  | cons item rest ih => rw [bareKeysOfItems, ih, List.flatMap_cons]

theorem mem_bareKeysOfMembers {schemas : MemberSchemas} {members : List (String × Value)}
    {key bare : String} {value : Value} {schema : Schema}
    (member : (key, value) ∈ present members) (found : schemas.find? key = some schema)
    (written : (writesBareKey schemas schema value = true ∧ bare = key) ∨
      bare ∈ bareKeys schema value) :
    bare ∈ bareKeysOfMembers schemas members := by
  obtain ⟨inside, notNull⟩ := mem_present.mp member
  clear member
  induction members with
  | nil => cases inside
  | cons first rest ih =>
      obtain ⟨name, other⟩ := first
      rw [bareKeysOfMembers, List.mem_append]
      rcases List.mem_cons.mp inside with same | later
      · cases same
        left
        rw [found]
        dsimp only at notNull ⊢
        rw [notNull, if_neg Bool.false_ne_true, List.mem_append]
        rcases written with ⟨writes, rfl⟩ | below
        · left
          rw [if_pos writes]
          exact List.mem_singleton_self _
        · exact .inr below
      · exact .inr (ih later)

/-- A value whose texts stay within their quotes and whose bare keys are words. -/
structure Legible (schema : Schema) (value : Value) : Prop where
  unionFree : schema.isUnionFree = true
  quotable : ∀ text ∈ value.texts, Quotable text
  words : ∀ key ∈ bareKeys schema value, Word key

namespace Legible

theorem element {label : Label} {element : Schema} {items : List Value}
    (legible : Legible (.list label element) (.list items)) {item : Value}
    (member : item ∈ items) : Legible element item where
  unionFree := legible.unionFree
  quotable := by
    intro text inside
    exact legible.quotable text (Value.mem_texts_list member inside)
  words := by
    intro key inside
    refine legible.words key ?_
    rw [bareKeys, bareKeysOfItems_eq_flatMap]
    exact List.mem_flatMap.mpr ⟨item, member, inside⟩

variable {schema found : Schema} {schemas : MemberSchemas} {members : List (String × Value)}
  {key : String} {value : Value}

theorem member (legible : Legible schema (.object members))
    (object : memberSchemas? schema = some schemas) (isPresent : (key, value) ∈ present members)
    (foundIs : schemas.find? key = some found) : Legible found value where
  unionFree := Schema.isUnionFree_of_find? legible.unionFree object foundIs
  quotable := by
    intro text inside
    exact legible.quotable text (Value.mem_texts_object (mem_present.mp isPresent).1
      (List.mem_cons_of_mem key inside))
  words := by
    intro bare inside
    refine legible.words bare ?_
    rw [bareKeys, object]
    exact mem_bareKeysOfMembers isPresent foundIs (.inr inside)

theorem quotable_key (legible : Legible schema (.object members))
    (isPresent : (key, value) ∈ present members) : Quotable key :=
  legible.quotable key (Value.mem_texts_object (mem_present.mp isPresent).1 List.mem_cons_self)

theorem word_key (legible : Legible schema (.object members))
    (object : memberSchemas? schema = some schemas) (isPresent : (key, value) ∈ present members)
    (foundIs : schemas.find? key = some found)
    (writes : writesBareKey schemas found value = true) : Word key := by
  refine legible.words key ?_
  rw [bareKeys, object]
  exact mem_bareKeysOfMembers isPresent foundIs (.inl ⟨writes, rfl⟩)

end Legible

/-! ### Lists -/

/-- Whatever the child renders at a level stands wherever that many brackets are open. -/
def LaysOut (child : Child) : Prop :=
  ∀ schema value level location depth rendered, Legible schema value →
    child schema value level location depth = .ok rendered → Fragment level rendered.text

theorem toList_indent (level : Nat) : (indent level).toList = List.replicate (2 * level) ' ' :=
  String.toList_ofList

theorem after_items {level : Nat} {items : List String}
    (each : ∀ item ∈ items, Fragment (level + 1) item) {brackets : List Bracket}
    (deep : brackets.length = level + 1) (last : Char) :
    ∃ final, (Cursor.inside ⟨false, brackets⟩ last).after
        (String.join (items.map fun item => "\n" ++ indent (level + 1) ++ item ++ ",")).toList =
      some (.inside ⟨false, brackets⟩ final) := by
  induction items generalizing last with
  | nil => exact ⟨last, rfl⟩
  | cons item rest ih =>
      obtain ⟨here, later⟩ := List.forall_mem_cons.mp each
      obtain ⟨middle, _, read⟩ := here.stands_of_spaces brackets false last deep
      obtain ⟨final, readLater⟩ := ih later ','
      refine ⟨final, ?_⟩
      have split : (String.join ((item :: rest).map fun item =>
            "\n" ++ indent (level + 1) ++ item ++ ",")).toList =
          '\n' :: ((indent (level + 1) ++ item).toList ++ ',' ::
            (String.join (rest.map fun item =>
              "\n" ++ indent (level + 1) ++ item ++ ",")).toList) := by
        simp [String.toList_join]
      rw [split, Cursor.after_cons_eq_some_iff]
      refine ⟨_, rfl, Cursor.after_append_eq_some_iff.mpr ⟨_, read, ?_⟩⟩
      exact Cursor.after_cons_eq_some_iff.mpr ⟨_, rfl, readLater⟩

theorem fragment_listText {level : Nat} {items : List String}
    (each : ∀ item ∈ items, Fragment (level + 1) item) : Fragment level (listText level items) := by
  unfold listText
  by_cases empty : items.isEmpty = true
  · rw [if_pos empty]
    intro brackets cursor _ ready
    exact ⟨']', rfl, Cursor.after_cons_eq_some_iff.mpr ⟨_, ready.next_opener .square, rfl⟩⟩
  · rw [if_neg empty]
    refine fragment_of_enclosed .square
      (String.join (items.map fun item => "\n" ++ indent (level + 1) ++ item ++ ",")).toList ?_
      fun brackets deep => after_items each deep _
    simp [toList_indent, Bracket.opener, Bracket.closer]

theorem LaysOut.renderList {child : Child} (laysOut : LaysOut child) {label : Label}
    {element : Schema} {value : Value} {level : Nat} {location : Location} {rendered : Rendered}
    (legible : Legible (.list label element) value)
    (renders : renderList child element value level location = .ok rendered) :
    Fragment level rendered.text := by
  unfold Render.renderList at renders
  cases items : value.asList? with
  | none =>
      rw [items] at renders
      cases renders
  | some values =>
      rw [items] at renders
      obtain ⟨parts, partsAre, same⟩ := bind_eq_ok_iff.mp renders
      cases same
      rw [Value.asList?_eq_some_iff] at items
      subst items
      refine fragment_listText fun text member => ?_
      obtain ⟨part, inside, rfl⟩ := List.mem_map.mp member
      obtain ⟨item, itemMember, _, partIs⟩ :=
        exists_left_of_mem (forall₂_of_forEachFrom partsAre) inside
      exact laysOut element item (level + 1) _ 0 part (legible.element itemMember) partIs

/-! ### Entries -/

theorem stands_attributeEntry {level : Nat} (width : Nat) {key : String} {value : Rendered}
    (keyFragment : Fragment level key) (fragment : Fragment level value.text) :
    Stands level (attributeEntry level width key value).text := by
  have equals : Continues level " = " := fun _ _ _ _ => ⟨' ', rfl, rfl⟩
  have padded : Fragment level (padRight width key) :=
    keyFragment.append (continues_spaces level (width - key.length))
  exact (padded.stands_of_spaces.append equals).append fragment.continues

theorem stands_blockEntry {level : Nat} {key : String} {body : Rendered} (word : Word key)
    (fragment : Fragment level body.text) : Stands level (blockEntry level key body).text :=
  ((word.fragment level).stands_of_spaces.append (continues_spaces level 1)).append
    fragment.continues

/-- The entries of a present member of an object, with the schema that the object's schema
has for it. -/
theorem LaysOut.stands_of_renderMember {child : Child} (laysOut : LaysOut child)
    {schema : Schema} {schemas : MemberSchemas} {members : List (String × Value)}
    {member : Member} {width level : Nat} {location : Location} {entries : List Entry}
    (legible : Legible schema (.object members)) (object : memberSchemas? schema = some schemas)
    (isPresent : (member.key, member.value) ∈ present members)
    (found : schemas.find? member.key = some member.schema)
    (renders : renderMember child schemas.quoteKeys width level location member = .ok entries) :
    ∀ entry ∈ entries, Stands level entry.text := by
  have inner : Legible member.schema member.value := legible.member object isPresent found
  have word : writesBareKey schemas member.schema member.value = true → Word member.key :=
    legible.word_key object isPresent found
  unfold renderMember at renders
  obtain ⟨_, single⟩ | ⟨block, repeats, several⟩ | ⟨_, _, plain⟩ :=
    member.schema.blockSchema?_cases
  · rw [single] at renders
    obtain ⟨body, bodyIs, same⟩ := bind_eq_ok_iff.mp renders
    cases same
    rw [List.forall_mem_singleton]
    exact stands_blockEntry (word (by rw [writesBareKey, single]))
      (laysOut _ _ _ _ _ body inner bodyIs)
  · rw [several] at renders
    cases items : member.value.asList? with
    | none =>
        rw [items] at renders
        cases renders
    | some values =>
        rw [items] at renders
        intro entry inside
        obtain ⟨item, itemMember, position, entryIs⟩ :=
          exists_left_of_mem (forall₂_of_forEachFrom renders) inside
        obtain ⟨body, bodyIs, same⟩ := bind_eq_ok_iff.mp entryIs
        cases same
        have notEmpty : values.isEmpty = false := by
          cases values with
          | nil => cases itemMember
          | cons _ _ => rfl
        refine stands_blockEntry (word (by simp [writesBareKey, several, items, notEmpty]))
          (laysOut _ _ _ _ _ body ?_ bodyIs)
        rw [Value.asList?_eq_some_iff] at items
        rw [items] at inner
        generalize member.schema = repeated at inner repeats
        cases repeats
        exact inner.element itemMember
  · rw [plain] at renders
    obtain ⟨value, valueIs, same⟩ := bind_eq_ok_iff.mp renders
    cases same
    rw [List.forall_mem_singleton]
    refine stands_attributeEntry width ?_ (laysOut _ _ _ _ _ value inner valueIs)
    unfold attributeKey
    cases quoted : schemas.quoteKeys with
    | true => exact (legible.quotable_key isPresent).fragment level
    | false => exact (word (by rw [writesBareKey, plain, quoted]; rfl)).fragment level

theorem stands_joinEntries {level : Nat} {entry : Entry} {rest : List Entry}
    (each : ∀ other ∈ entry :: rest, Stands level other.text) :
    Stands level (joinEntries (entry :: rest)) := by
  induction rest generalizing entry with
  | nil => exact each entry List.mem_cons_self
  | cons next rest ih =>
      obtain ⟨here, later⟩ := List.forall_mem_cons.mp each
      rw [joinEntries]
      split
      · exact here.belowBlank (ih later)
      · exact here.below (ih later)

/-! ### Objects -/

theorem fragment_bodyText {level : Nat} {entries : List Entry}
    (each : ∀ entry ∈ entries, Stands (level + 1) entry.text) :
    Fragment level (bodyText true level (joinEntries entries)) := by
  refine fragment_of_enclosed .brace
    (if joinEntries entries = "" then "" else "\n" ++ joinEntries entries).toList ?_ ?_
  · simp [bodyText, toList_indent, Bracket.opener, Bracket.closer]
  · intro brackets deep
    by_cases empty : joinEntries entries = ""
    · rw [if_pos empty]
      exact ⟨_, rfl⟩
    · rw [if_neg empty, String.toList_append]
      cases entries with
      | nil => exact absurd rfl empty
      | cons entry rest =>
          obtain ⟨last, _, read⟩ := stands_joinEntries each brackets false _ deep
          exact ⟨last, Cursor.after_cons_eq_some_iff.mpr ⟨_, rfl, read⟩⟩

theorem LaysOut.renderObject {child : Child} (laysOut : LaysOut child) {options : RenderOptions}
    (braced : options.attributeObjects = .braced) {schema : Schema} {schemas : MemberSchemas}
    {value : Value} {level : Nat} {location : Location} {rendered : Rendered}
    (legible : Legible schema value) (object : memberSchemas? schema = some schemas)
    (renders : renderObject child options schema schemas value level location = .ok rendered) :
    Fragment level rendered.text := by
  unfold Render.renderObject at renders
  cases all : value.asObject? with
  | none =>
      rw [all] at renders
      cases renders
  | some members =>
      rw [all] at renders
      obtain ⟨found, foundAre, tail⟩ := bind_eq_ok_iff.mp renders
      obtain ⟨groups, groupsAre, same⟩ := bind_eq_ok_iff.mp tail
      cases same
      rw [Value.asObject?_eq_some_iff] at all
      subst all
      have enclosed : (schema.marker.isBraced || options.attributeObjects == .braced) = true := by
        rw [braced]
        exact Bool.or_true _
      rw [enclosed]
      refine fragment_bodyText fun entry inside => ?_
      obtain ⟨group, groupMember, entryMember⟩ := List.mem_flatten.mp inside
      obtain ⟨member, memberFound, groupIs⟩ :=
        exists_left_of_mem ((mapM_eq_ok_iff _ _ _).mp groupsAre) groupMember
      obtain ⟨⟨key, inner⟩, isPresent, sameKey, sameValue, foundIs⟩ :=
        exists_left_of_mem ((membersOf_eq_ok_iff _ _ _ _).mp foundAre) memberFound
      dsimp only at sameKey sameValue foundIs
      subst sameKey sameValue
      exact laysOut.stands_of_renderMember legible object isPresent foundIs groupIs entry
        entryMember

end Render

/-! ### Whole values -/

namespace Renderer

theorem laysOut_renderNode (renderer : Renderer)
    (braced : renderer.options.attributeObjects = .braced) (resourceType : String)
    (nesting : Nat) : LaysOut (renderer.renderNode resourceType nesting) := by
  induction nesting with
  | zero =>
      intro schema value level location depth rendered _ renders
      cases renders
  | succ nesting ih =>
      intro schema value level location depth rendered legible renders
      cases schema with
      | scalar label kind =>
          cases kind with
          | string =>
              rw [renderNode_string] at renders
              cases value with
              | string text =>
                  cases renders
                  exact (legible.quotable text (List.mem_singleton_self _)).fragment level
              | null | bool | number | list | object => cases renders
          | boolean =>
              rw [renderNode_boolean] at renders
              cases renders
              split
              · exact (by decide : Word "true").fragment level
              · exact (by decide : Word "false").fragment level
          | number =>
              rw [renderNode_number] at renders
              cases renders
              exact (word_numberText value).fragment level
      | list label element =>
          rw [renderNode_list] at renders
          exact ih.renderList legible renders
      | dictionary label element =>
          rw [renderNode_dictionary] at renders
          exact ih.renderObject braced legible rfl renders
      | record label fields =>
          rw [renderNode_record] at renders
          exact ih.renderObject braced legible rfl renders
      | union label alternatives => cases legible.unionFree

/--
Braced output is well bracketed and indented by depth. The strings of the value neither end
a quote nor a line, and the keys written without quotes are words: letters, digits and signs
other than spaces, quotes and brackets.
-/
theorem render_wellLaid (renderer : Renderer)
    (braced : renderer.options.attributeObjects = .braced) {resourceType : String}
    {schema : Schema} {value : Value} {rendered : Rendered}
    (unionFree : schema.isUnionFree = true)
    (quotable : ∀ text ∈ value.texts, '"' ∉ text.toList ∧ '\n' ∉ text.toList)
    (words : ∀ key ∈ bareKeys schema value, Word key)
    (renders : renderer.render resourceType schema value = .ok rendered) :
    WellLaid rendered.text :=
  (renderer.laysOut_renderNode braced resourceType _ schema value 0 _ 0 rendered
    ⟨unionFree, quotable, words⟩ renders).wellLaid

def ruleBlock : Schema :=
  .record ⟨.block, none⟩ [⟨"ports", true, .list {} (.scalar {} .number)⟩,
    ⟨"labels", false, .dictionary {} (.scalar {} .string)⟩]

def ruledHosts : Schema :=
  .record ⟨.resource, none⟩ [⟨"name", true, .scalar {} .string⟩,
    ⟨"rules", false, .list {} ruleBlock⟩,
    ⟨"hosts", false, .list {} (.record {} [⟨"id", true, .scalar {} .string⟩])⟩]

def ruledValue : Value :=
  .object [("name", .string "a"),
    ("rules", .list [.object [("ports", .list [.number (.int 80)]),
      ("labels", .object [("x y", .string "b]")])], .object []]),
    ("hosts", .list [.object [("id", .string "c")]])]

def ruledText : String :=
  "\x7b\n  name  = \"a\"\n\n  rules \x7b\n    ports  = [\n      80,\n    ]\n    labels = \x7b\n" ++
    "      \"x y\" = \"b]\"\n    \x7d\n  \x7d\n\n  rules \x7b\n  \x7d\n\n  hosts = [\n    \x7b\n" ++
    "      id = \"c\"\n    \x7d,\n  ]\n\x7d"

/-- Repeated blocks between attributes, one of them empty; a list and a dictionary in a block,
and a list of objects. A bracket within quotes does not count. -/
theorem ruledText_wellLaid :
    ruledHosts.isUnionFree = true ∧
      (∀ text ∈ ruledValue.texts, '"' ∉ text.toList ∧ '\n' ∉ text.toList) ∧
      (∀ key ∈ bareKeys ruledHosts ruledValue, Word key) ∧
      Renderer.render ⟨Resolver.structural, ⟨.braced⟩, 0⟩ "service" ruledHosts ruledValue =
        .ok ⟨ruledText, []⟩ ∧
      WellLaid ruledText := by
  have unionFree : ruledHosts.isUnionFree = true := rfl
  have quotable : ∀ text ∈ ruledValue.texts, '"' ∉ text.toList ∧ '\n' ∉ text.toList := by decide
  have words : ∀ key ∈ bareKeys ruledHosts ruledValue, Word key := by decide
  have renders : Renderer.render ⟨Resolver.structural, ⟨.braced⟩, 0⟩ "service" ruledHosts
      ruledValue = .ok ⟨ruledText, []⟩ := by decide +kernel
  exact ⟨unionFree, quotable, words, renders,
    render_wellLaid ⟨Resolver.structural, ⟨.braced⟩, 0⟩ rfl unionFree quotable words renders⟩

end Renderer
end Stanza
