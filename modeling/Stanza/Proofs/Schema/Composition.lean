import Mathlib.Data.List.Nodup
import Stanza.Proofs.Schema
import Stanza.Proofs.Table.Filling
import Stanza.Render.Resolver

set_option autoImplicit false

/-!
The fields of a record composed of required and optional declarations. Composing keeps two
collections in step: the schemas by name, where an optional declaration takes the place of a
required one, and the names of the required fields, from which every optional name goes.
-/

namespace Stanza

namespace Field

variable {α : Type}

def entry (field : Field α) : String × α := (field.name, field.schema)

def requiredNames (fields : List (Field α)) : List String :=
  (fields.filter Field.required).map Field.name

/-! ### Reading fields -/

theorem find?_eq_findValue? (fields : List (Field α)) (name : String) :
    find? fields name = findValue? name (fields.map entry) := by
  induction fields with
  | nil => rfl
  | cons field rest ih =>
      by_cases here : field.name = name
      · simp [find?, findValue?, entry, here]
      · simpa [find?, findValue?, entry, here] using ih

theorem isSome_find?_iff (fields : List (Field α)) (name : String) :
    (find? fields name).isSome = true ↔ name ∈ fields.map Field.name := by
  simp [find?]

theorem isRequired_iff (fields : List (Field α)) (name : String) :
    isRequired fields name = true ↔ name ∈ requiredNames fields := by
  simp only [isRequired, requiredNames, List.any_eq_true, List.mem_map, List.mem_filter,
    Bool.and_eq_true, decide_eq_true_iff]
  constructor
  · rintro ⟨field, inside, named, needed⟩
    exact ⟨field, ⟨inside, needed⟩, named⟩
  · rintro ⟨field, ⟨inside, needed⟩, named⟩
    exact ⟨field, inside, named, needed⟩

/-! ### Putting one field -/

theorem map_entry_put (field : Field α) (fields : List (Field α)) :
    (put field fields).map entry = putEntry field.name field.schema (fields.map entry) := by
  induction fields with
  | nil => rfl
  | cons present rest ih =>
      by_cases same : present.name = field.name
      · simp [put, putEntry, entry, same]
      · simpa [put, putEntry, entry, same] using ih

theorem requiredNames_put {field : Field α} (optional : field.required = false)
    {fields : List (Field α)} (distinct : (fields.map Field.name).Nodup) :
    requiredNames (put field fields) = (requiredNames fields).erase field.name := by
  induction fields with
  | nil => simp [put, requiredNames, optional]
  | cons present rest ih =>
      obtain ⟨absent, later⟩ := List.nodup_cons.mp distinct
      have further := ih later
      unfold requiredNames at further ⊢
      by_cases same : present.name = field.name
      · -- no later field has this name, so nothing is erased from what stays
        have kept : field.name ∉ (rest.filter Field.required).map Field.name := fun inside =>
          absent (same ▸ List.map_subset _ (List.filter_subset_self _) inside)
        rw [put, if_pos same, List.filter_cons_of_neg (by simp [optional])]
        cases needed : present.required with
        | true =>
            rw [List.filter_cons_of_pos needed, List.map_cons, same, List.erase_cons_head]
        | false =>
            rw [List.filter_cons_of_neg (by simp [needed]), List.erase_of_not_mem kept]
      · rw [put, if_neg same]
        cases needed : present.required with
        | true =>
            rw [List.filter_cons_of_pos needed, List.filter_cons_of_pos needed, List.map_cons,
              List.map_cons, List.erase_cons_tail (by simpa using same), further]
        | false =>
            rw [List.filter_cons_of_neg (by simp [needed]),
              List.filter_cons_of_neg (by simp [needed]), further]

/-! ### Two collections -/

/-- The fields as a table of their schemas and a list of the required names. -/
structure InStep (fields : List (Field α)) (schemas : Table α) (required : List String) :
    Prop where
  entries : fields.map entry = schemas.entries
  names : requiredNames fields = required

namespace InStep

variable {fields : List (Field α)} {schemas : Table α} {required : List String}

theorem map_name (inStep : InStep fields schemas required) :
    fields.map Field.name = schemas.keys := by
  rw [Table.keys, ← inStep.entries, List.map_map]
  rfl

theorem put (inStep : InStep fields schemas required) (name : String) (schema : α) :
    InStep (Field.put ⟨name, false, schema⟩ fields) (schemas.insert name schema)
      (required.erase name) where
  entries := by rw [map_entry_put, inStep.entries]; rfl
  names := by
    rw [requiredNames_put rfl (inStep.map_name ▸ schemas.distinct), inStep.names]

theorem putAll (inStep : InStep fields schemas required) (entries : List (String × α)) :
    InStep (entries.foldl (fun fields entry => Field.put ⟨entry.1, false, entry.2⟩ fields) fields)
      (schemas.insertAll entries) (required.diff (entries.map Prod.fst)) := by
  induction entries generalizing fields schemas required with
  | nil => exact inStep
  | cons entry rest ih =>
      rw [List.map_cons, List.diff_cons]
      exact ih (inStep.put entry.1 entry.2)

end InStep

theorem compose_inStep (required optional : Table α) :
    InStep (compose required optional) (required.insertAll optional.entries)
      (required.keys.diff optional.keys) := by
  have start : InStep (required.entries.map fun entry => ⟨entry.1, true, entry.2⟩) required
      required.keys := by
    constructor
    · simp [entry, Function.comp_def]
    · simp [requiredNames, Table.keys, Function.comp_def, List.filter_map]
  exact start.putAll optional.entries

theorem map_entry_compose (required optional : Table α) :
    (compose required optional).map entry =
      (required.entries.map fun entry => (entry.1, (optional.get? entry.1).getD entry.2)) ++
        optional.entries.filter fun entry => entry.1 ∉ required.keys := by
  rw [(compose_inStep required optional).entries, Table.entries_insertAll_entries]

/-- Each composed field has a schema that one of the two tables declares. -/
theorem mem_compose {required optional : Table α} {field : Field α}
    (member : field ∈ compose required optional) :
    (∃ entry ∈ required.entries, entry.2 = field.schema) ∨
      ∃ entry ∈ optional.entries, entry.2 = field.schema := by
  have listed := List.mem_map_of_mem (f := entry) member
  rw [map_entry_compose] at listed
  rcases List.mem_append.mp listed with early | late
  · obtain ⟨declared, inside, same⟩ := List.mem_map.mp early
    cases overridden : optional.get? declared.1 with
    | none =>
        rw [overridden] at same
        exact .inl ⟨declared, inside, congrArg Prod.snd same⟩
    | some schema =>
        rw [overridden] at same
        exact .inr ⟨_, mem_of_findValue? overridden, congrArg Prod.snd same⟩
  · exact .inr ⟨_, List.mem_of_mem_filter late, rfl⟩

theorem requiredNames_compose (required optional : Table α) :
    requiredNames (compose required optional) =
      required.keys.filter fun name => name ∉ optional.keys := by
  rw [(compose_inStep required optional).names]
  exact required.distinct.sdiff_eq_filter

theorem find?_compose (required optional : Table α) (name : String) :
    find? (compose required optional) name = (optional.get? name).or (required.get? name) := by
  rw [find?_eq_findValue?, (compose_inStep required optional).entries]
  exact Table.get?_insertAll_entries required optional name

theorem isRequired_compose_iff (required optional : Table α) (name : String) :
    isRequired (compose required optional) name = true ↔
      name ∈ required.keys ∧ name ∉ optional.keys := by
  rw [isRequired_iff, requiredNames_compose, List.mem_filter, decide_eq_true_iff]

theorem mem_names_compose_iff (required optional : Table α) (name : String) :
    name ∈ (compose required optional).map Field.name ↔
      name ∈ required.keys ∨ name ∈ optional.keys := by
  rw [(compose_inStep required optional).map_name, Table.keys_insertAll, List.mem_eraseDups,
    List.mem_append]
  rfl

/--
The optional declaration of a name decides, also on whether the field is required. Every name is
listed once: the required ones in their order, whichever declaration decides, and after them the
names that are only optional. What is required is declared.
-/
theorem compose_prefers_optional (required optional : Table α) :
    (∀ name, find? (compose required optional) name =
      (optional.get? name).or (required.get? name)) ∧
    (∀ name, isRequired (compose required optional) name = true ↔
      name ∈ required.keys ∧ name ∉ optional.keys) ∧
    ((compose required optional).map entry =
      (required.entries.map fun entry => (entry.1, (optional.get? entry.1).getD entry.2)) ++
        optional.entries.filter fun entry => entry.1 ∉ required.keys) ∧
    ((compose required optional).map Field.name).Nodup ∧
    (∀ name, name ∈ (compose required optional).map Field.name ↔
      name ∈ required.keys ∨ name ∈ optional.keys) ∧
    requiredNames (compose required optional) =
      (required.keys.filter fun name => name ∉ optional.keys) ∧
    ∀ name, isRequired (compose required optional) name = true →
      ∃ schema, find? (compose required optional) name = some schema := by
  refine ⟨find?_compose required optional, isRequired_compose_iff required optional,
    map_entry_compose required optional, ?_, mem_names_compose_iff required optional,
    requiredNames_compose required optional, ?_⟩
  · rw [(compose_inStep required optional).map_name]
    exact Table.distinct _
  · intro name needed
    obtain ⟨listed, unlisted⟩ := (isRequired_compose_iff required optional name).mp needed
    obtain ⟨schema, declared⟩ := Table.exists_get?_of_mem_keys listed
    refine ⟨schema, ?_⟩
    rw [find?_compose, Table.get?_eq_none_iff.mpr unlisted, declared, Option.none_or]

def requiredOfServer : Table Schema :=
  .ofList [("name", .scalar {} .string), ("location", .scalar {} .string)]

def optionalOfServer : Table Schema :=
  .ofList [("tags", .dictionary {} (.scalar {} .string)), ("name", .scalar {} .number)]

theorem server_location_declared :
    (compose requiredOfServer optionalOfServer).map Field.name = ["name", "location", "tags"] ∧
      isRequired (compose requiredOfServer optionalOfServer) "location" = true ∧
      ∃ schema, find? (compose requiredOfServer optionalOfServer) "location" = some schema :=
  ⟨by decide, by decide, (compose_prefers_optional requiredOfServer optionalOfServer).2.2.2.2.2.2
    "location" (by decide)⟩

end Field

/-- A record alternative takes an object without undeclared keys that has a value for every name
which is required and not optional as well. -/
theorem Resolver.fieldsAccept_compose_iff (required optional : Table Schema)
    (members : List (String × Value)) :
    fieldsAccept (Field.compose required optional) members = true ↔
      (∀ member ∈ members, member.1 ∈ required.keys ∨ member.1 ∈ optional.keys) ∧
        ∀ name ∈ required.keys, name ∉ optional.keys → hasMember members name = true := by
  have declared (key : String) :
      (Field.find? (Field.compose required optional) key).isSome = true ↔
        key ∈ required.keys ∨ key ∈ optional.keys := by
    rw [← Field.mem_names_compose_iff, Field.isSome_find?_iff]
  have complete :
      ((Field.compose required optional).filter Field.required).all
          (fun field => hasMember members field.name) =
        (Field.requiredNames (Field.compose required optional)).all (hasMember members) := by
    rw [Field.requiredNames, List.all_map]
    rfl
  rw [fieldsAccept, Bool.and_eq_true, List.all_eq_true, complete, Field.requiredNames_compose,
    List.all_eq_true]
  simp only [declared, List.mem_filter, decide_eq_true_iff, and_imp]

end Stanza
