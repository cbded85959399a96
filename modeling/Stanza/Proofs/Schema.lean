import Stanza.Schema

set_option autoImplicit false

/-!
Parts of a schema: no part is higher than the whole, a found field is a declared one, and
a schema expands to blocks in exactly two ways.
-/

namespace Stanza

/-! ### Fields -/

theorem Field.mem_of_find? {α : Type} {fields : List (Field α)} {name : String} {schema : α}
    (found : Field.find? fields name = some schema) :
    ∃ field ∈ fields, field.name = name ∧ field.schema = schema := by
  unfold Field.find? at found
  obtain ⟨field, fieldIs, schemaIs⟩ := Option.map_eq_some_iff.mp found
  have named : field.name = name := by
    simpa using List.find?_some fieldIs
  exact ⟨field, List.mem_of_find?_eq_some fieldIs, named, schemaIs⟩

namespace Schema

/-! ### Height -/

theorem height_le_heightOfFields {fields : List (Field Schema)} {field : Field Schema}
    (member : field ∈ fields) : field.schema.height ≤ heightOfFields fields := by
  induction fields with
  | nil => cases member
  | cons head rest ih =>
      simp only [heightOfFields]
      rcases List.mem_cons.mp member with same | later
      · subst same
        exact Nat.le_max_left _ _
      · exact Nat.le_trans (ih later) (Nat.le_max_right _ _)

theorem height_le_heightOfAll {schemas : List Schema} {schema : Schema}
    (member : schema ∈ schemas) : schema.height ≤ heightOfAll schemas := by
  induction schemas with
  | nil => cases member
  | cons head rest ih =>
      simp only [heightOfAll]
      rcases List.mem_cons.mp member with same | later
      · subst same
        exact Nat.le_max_left _ _
      · exact Nat.le_trans (ih later) (Nat.le_max_right _ _)

theorem height_pos (schema : Schema) : 0 < schema.height := by
  cases schema <;> simp only [height] <;> omega

/-! ### Blocks -/

theorem isBlock_iff (schema : Schema) : schema.isBlock = true ↔ schema.marker = .block := by
  simp [isBlock]

/-- The schema is a list, not marked as a block itself, of elements that are. -/
inductive RepeatsBlock : Schema → Schema → Prop
  | list {label : Label} {block : Schema} (unmarked : label.marker ≠ .block)
      (marked : block.marker = .block) : RepeatsBlock (.list label block) block

theorem blockSchema?_of_block {schema : Schema} (marked : schema.marker = .block) :
    schema.blockSchema? = some (schema, false) := by
  unfold blockSchema?
  rw [if_pos ((isBlock_iff schema).mpr marked)]

theorem blockSchema?_of_repeatsBlock {schema block : Schema}
    (repeated : RepeatsBlock schema block) : schema.blockSchema? = some (block, true) := by
  cases repeated with
  | @list label _ unmarked marked =>
      have notBlock : ¬ (Schema.list label block).isBlock = true := by
        rw [isBlock_iff]
        exact unmarked
      simp only [blockSchema?, if_neg notBlock, if_pos ((isBlock_iff block).mpr marked)]

theorem blockSchema?_of_attribute {schema : Schema} (unmarked : schema.marker ≠ .block)
    (single : ∀ block, ¬ RepeatsBlock schema block) : schema.blockSchema? = none := by
  have notBlock : ¬ schema.isBlock = true := by rwa [isBlock_iff]
  unfold blockSchema?
  rw [if_neg notBlock]
  cases schema with
  | list label element =>
      by_cases marked : element.isBlock = true
      · exact absurd (.list unmarked ((isBlock_iff element).mp marked)) (single element)
      · simp only [if_neg marked]
  | scalar _ _ => rfl
  | dictionary _ _ => rfl
  | record _ _ => rfl
  | union _ _ => rfl

theorem blockSchema?_cases (schema : Schema) :
    (schema.marker = .block ∧ schema.blockSchema? = some (schema, false)) ∨
      (∃ block, RepeatsBlock schema block ∧ schema.blockSchema? = some (block, true)) ∨
      (schema.marker ≠ .block ∧ (∀ block, ¬ RepeatsBlock schema block) ∧
        schema.blockSchema? = none) := by
  by_cases marked : schema.marker = .block
  · exact .inl ⟨marked, blockSchema?_of_block marked⟩
  · by_cases repeats : ∃ block, RepeatsBlock schema block
    · obtain ⟨block, repeated⟩ := repeats
      exact .inr (.inl ⟨block, repeated, blockSchema?_of_repeatsBlock repeated⟩)
    · have single : ∀ block, ¬ RepeatsBlock schema block := fun block repeated =>
        repeats ⟨block, repeated⟩
      exact .inr (.inr ⟨marked, single, blockSchema?_of_attribute marked single⟩)

end Schema
end Stanza
