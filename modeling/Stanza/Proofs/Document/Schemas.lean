import Stanza.Proofs.Document.Nodes
import Stanza.Proofs.Schema.Composition

set_option autoImplicit false

/-!
Schemas out of JSON values. Along a value whose kinds and markers are texts, reading succeeds
exactly on the documents of schemas, gives the schema that the document describes, and leaves
no union empty.
-/

namespace Stanza.Document

variable {reading : Reading} {members : List (String × Value)} {label : Label} {schema : Schema}

/-! ### One node -/

theorem readChild_iff (reading : Reading) (name : String) (schema : Schema) :
    readChild reading name none (ofMembers members) = .ok schema ↔
      ∃ value, valuesAt name members = [value] ∧ readInner value = .ok schema := by
  rw [readChild_ofMembers, foldlM_takeOnce_needed_iff]

theorem readAlternatives_iff (reading : Reading) (schemas : List Schema) :
    readAlternatives reading none (ofMembers members) = .ok schemas ↔
      ∃ items, valuesAt "alternatives" members = [.list items] ∧
        items.mapM readInner = .ok schemas := by
  rw [readAlternatives_ofMembers, foldlM_takeOnce_needed_iff]
  simp only [readSchemaList_iff]
  constructor
  · rintro ⟨_, only, items, rfl, read⟩
    exact ⟨items, only, read⟩
  · rintro ⟨items, only, read⟩
    exact ⟨_, only, items, rfl, read⟩

theorem readFieldTables_iff (tables : FieldTables) :
    readFieldTables reading {} (ofMembers members) = .ok tables ↔
      FilledBy (fun value => readSchemaTable (ofValue value)) (valuesAt "required" members)
          tables.required ∧
        FilledBy (fun value => readSchemaTable (ofValue value)) (valuesAt "optional" members)
          tables.optional := by
  rw [readFieldTables_ofMembers, foldlM_takeOnce_iff, foldlM_takeOnce_iff]

theorem readSchema_object_iff (noWords : reading.wordIsText = false)
    (kindTagged : ∀ value ∈ valuesAt "kind" members, ∃ text, value = .string text)
    (markerTagged : ∀ value ∈ valuesAt "marker" members,
      value = .null ∨ ∃ text, value = .string text) (schema : Schema) :
    readSchema reading (ofValue (.object members)) = .ok schema ↔
      ∃ label kind, Headed members label ∧ valuesAt "kind" members = [.string kind.word] ∧
        readParts reading label members kind = .ok schema := by
  rw [readSchema_object]
  simp only [bind_eq_ok_iff, readKind_iff kindTagged]
  constructor
  · rintro ⟨heading, done, kind, isKind, read⟩
    have headed := (readHeading_iff noWords markerTagged _).mp ⟨heading, done, rfl⟩
    exact ⟨heading.label, kind, headed, isKind, read⟩
  · rintro ⟨label, kind, headed, isKind, read⟩
    obtain ⟨heading, done, rfl⟩ := (readHeading_iff noWords markerTagged _).mpr headed
    exact ⟨heading, done, kind, isKind, read⟩

section Node

variable (each : ∀ part ∈ parts members, ∀ schema,
  readInner part = .ok schema ↔ Describes part schema)

include each

/-- The values of a list below a node are read as the schemas that they describe. -/
theorem mapM_readInner_iff {values : List Value} (inside : ∀ value ∈ values, value ∈ parts members)
    (schemas : List Schema) :
    values.mapM readInner = .ok schemas ↔ List.Forall₂ Describes values schemas :=
  mapM_eq_ok_iff_of_mem (fun value member => each value (inside value member)) schemas

theorem describes_of_readParts (headed : Headed members label) {kind : SchemaKind}
    (isKind : valuesAt "kind" members = [.string kind.word])
    (read : readParts reading label members kind = .ok schema) :
    Describes (.object members) schema := by
  cases kind with
  | scalar kind =>
      cases read
      exact .scalar headed kind isKind
  | list =>
      obtain ⟨element, child, same⟩ := bind_eq_ok_iff.mp read
      cases same
      obtain ⟨value, only, below⟩ := (readChild_iff reading _ _).mp child
      exact .list headed isKind only ((each value (element_mem_parts only) _).mp below)
  | dictionary =>
      obtain ⟨element, child, same⟩ := bind_eq_ok_iff.mp read
      cases same
      obtain ⟨value, only, below⟩ := (readChild_iff reading _ _).mp child
      exact .dictionary headed isKind only ((each value (value_mem_parts only) _).mp below)
  | record =>
      obtain ⟨tables, fields, same⟩ := bind_eq_ok_iff.mp read
      cases same
      obtain ⟨isRequired, isOptional⟩ := (readFieldTables_iff _).mp fields
      obtain ⟨required, requiredSchemas, requiredGiven, requiredRead, requiredIs⟩ :=
        (table_iff _ _).mp ⟨_, isRequired, rfl⟩
      obtain ⟨optional, optionalSchemas, optionalGiven, optionalRead, optionalIs⟩ :=
        (table_iff _ _).mp ⟨_, isOptional, rfl⟩
      rw [requiredIs, optionalIs]
      exact .record headed isKind requiredGiven optionalGiven
        ((mapM_readInner_iff each (fields_subset_parts (.inl rfl) requiredGiven) _).mp
          requiredRead)
        ((mapM_readInner_iff each (fields_subset_parts (.inr rfl) optionalGiven) _).mp
          optionalRead)
  | union =>
      obtain ⟨schemas, alternatives, last⟩ := bind_eq_ok_iff.mp read
      obtain ⟨items, only, itemsRead⟩ := (readAlternatives_iff reading _).mp alternatives
      have below := (mapM_readInner_iff each (alternatives_subset_parts only) _).mp itemsRead
      by_cases empty : schemas.isEmpty = true
      · rw [if_pos empty] at last
        cases last
      · rw [if_neg empty] at last
        cases last
        refine .union headed isKind only ?_ below
        rintro rfl
        cases below
        exact empty rfl

theorem readParts_of_describes (reading : Reading)
    (describes : Describes (.object members) schema) :
    ∃ label kind, Headed members label ∧ valuesAt "kind" members = [.string kind.word] ∧
      readParts reading label members kind = .ok schema := by
  cases describes with
  | @scalar _ label headed kind isKind => exact ⟨label, .scalar kind, headed, isKind, rfl⟩
  | @list _ label element schema headed isKind only below =>
      have child := (readChild_iff reading _ _).mpr
        ⟨element, only, (each element (element_mem_parts only) _).mpr below⟩
      exact ⟨label, .list, headed, isKind, bind_eq_ok_iff.mpr ⟨schema, child, rfl⟩⟩
  | @dictionary _ label value schema headed isKind only below =>
      have child := (readChild_iff reading _ _).mpr
        ⟨value, only, (each value (value_mem_parts only) _).mpr below⟩
      exact ⟨label, .dictionary, headed, isKind, bind_eq_ok_iff.mpr ⟨schema, child, rfl⟩⟩
  | @record _ requiredFields optionalFields label requiredSchemas optionalSchemas headed isKind
      required optional requiredBelow optionalBelow =>
      have requiredRead := (mapM_readInner_iff each
        (fields_subset_parts (.inl rfl) required) _).mpr requiredBelow
      have optionalRead := (mapM_readInner_iff each
        (fields_subset_parts (.inr rfl) optional) _).mpr optionalBelow
      obtain ⟨foundRequired, isRequired, requiredIs⟩ :=
        (table_iff _ _).mpr ⟨_, _, required, requiredRead, rfl⟩
      obtain ⟨foundOptional, isOptional, optionalIs⟩ :=
        (table_iff _ _).mpr ⟨_, _, optional, optionalRead, rfl⟩
      have tables : readFieldTables reading {} (ofMembers members) =
          .ok ⟨foundRequired, foundOptional⟩ :=
        (readFieldTables_iff _).mpr ⟨isRequired, isOptional⟩
      refine ⟨label, .record, headed, isKind, bind_eq_ok_iff.mpr ⟨_, tables, ?_⟩⟩
      rw [requiredIs, optionalIs]
  | @union _ label items schemas headed isKind only nonempty below =>
      have itemsRead := (mapM_readInner_iff each (alternatives_subset_parts only) _).mpr below
      have alternatives := (readAlternatives_iff reading _).mpr
        ⟨items, only, itemsRead⟩
      refine ⟨label, .union, headed, isKind, bind_eq_ok_iff.mpr ⟨schemas, alternatives, ?_⟩⟩
      cases below with
      | nil => exact absurd rfl nonempty
      | cons first rest => rfl

end Node

/-! ### All nodes -/

theorem readSchema_plain {value : Value} (noObject : value.asObject? = none) (reading : Reading) :
    readSchema reading (ofValue value) = malformed := by
  cases value with
  | object members => cases noObject
  | _ => rfl

theorem readSchema_iff_describes {value : Value} (tagged : TextTagged value) :
    ∀ reading : Reading, reading.wordIsText = false → ∀ schema,
      readSchema reading (ofValue value) = .ok schema ↔ Describes value schema := by
  induction tagged with
  | @plain value noObject =>
      intro reading _ schema
      rw [readSchema_plain noObject]
      constructor
      · intro impossible
        cases impossible
      · intro describes
        cases describes <;> cases noObject
  | @node members kind marker _ ih =>
      intro reading noWords schema
      have each : ∀ part ∈ parts members, ∀ schema,
          readInner part = .ok schema ↔ Describes part schema :=
        fun part member => ih part member Reading.inner rfl
      rw [readSchema_object_iff noWords kind marker]
      constructor
      · rintro ⟨label, kind, headed, isKind, read⟩
        exact describes_of_readParts each headed isKind read
      · exact readParts_of_describes each reading

/-! ### Documents of schemas -/

theorem headingFits_iff : HeadingFits members ↔ ∃ label, Headed members label := by
  constructor
  · intro fits
    have name : ∃ name, NameGiven (valuesAt "name" members) name := by
      rcases fits.name with same | same | ⟨text, same⟩ <;> rw [same]
      · exact ⟨_, .absent⟩
      · exact ⟨_, .null⟩
      · exact ⟨_, .text text⟩
    obtain ⟨name, nameGiven⟩ := name
    have marker : ∃ marker, MarkerGiven name (valuesAt "marker" members) marker := by
      rcases fits.marker with same | same | ⟨text, isMarker, same⟩ <;> rw [same]
      · exact ⟨_, .absent⟩
      · exact ⟨_, .null⟩
      · simp only [List.mem_cons, List.not_mem_nil, or_false] at isMarker
        rcases isMarker with rfl | rfl | rfl
        · exact ⟨_, .text .none⟩
        · exact ⟨_, .text .block⟩
        · exact ⟨_, .text .resource⟩
    obtain ⟨marker, markerGiven⟩ := marker
    exact ⟨⟨marker, name⟩, nameGiven, markerGiven⟩
  · rintro ⟨label, nameGiven, markerGiven⟩
    constructor
    · generalize valuesAt "name" members = values at nameGiven
      generalize label.name = name at nameGiven
      cases nameGiven with
      | absent => exact .inl rfl
      | null => exact .inr (.inl rfl)
      | text name => exact .inr (.inr ⟨name, rfl⟩)
    · generalize valuesAt "marker" members = values at markerGiven
      generalize label.marker = marker at markerGiven
      cases markerGiven with
      | absent => exact .inl rfl
      | null => exact .inr (.inl rfl)
      | text =>
          refine .inr (.inr ⟨marker.text, ?_, rfl⟩)
          cases marker <;> simp [Marker.text]

theorem isNode_iff_describes {value : Value} (tagged : TextTagged value) :
    IsNode value ↔ ∃ schema, Describes value schema := by
  induction tagged with
  | plain noObject =>
      constructor
      · intro node
        cases node <;> cases noObject
      · rintro ⟨schema, describes⟩
        cases describes <;> cases noObject
  | @node members _ _ _ ih =>
      have below {values : List Value} (inside : ∀ value ∈ values, value ∈ parts members) :
          (∀ value ∈ values, IsNode value) ↔ ∃ schemas, List.Forall₂ Describes values schemas := by
        rw [← exists_forall₂_iff]
        exact forall₂_congr fun value member => ih value (inside value member)
      constructor
      · intro node
        cases node with
        | @scalar _ kind heading isKind isScalar =>
            obtain ⟨label, headed⟩ := headingFits_iff.mp heading
            simp only [List.mem_cons, List.not_mem_nil, or_false] at isScalar
            rcases isScalar with rfl | rfl | rfl
            · exact ⟨_, .scalar headed .string isKind⟩
            · exact ⟨_, .scalar headed .boolean isKind⟩
            · exact ⟨_, .scalar headed .number isKind⟩
        | list heading isKind only child =>
            obtain ⟨label, headed⟩ := headingFits_iff.mp heading
            obtain ⟨schema, describes⟩ := (ih _ (element_mem_parts only)).mp child
            exact ⟨_, .list headed isKind only describes⟩
        | dictionary heading isKind only child =>
            obtain ⟨label, headed⟩ := headingFits_iff.mp heading
            obtain ⟨schema, describes⟩ := (ih _ (value_mem_parts only)).mp child
            exact ⟨_, .dictionary headed isKind only describes⟩
        | record heading isKind required optional requiredBelow optionalBelow =>
            obtain ⟨label, headed⟩ := headingFits_iff.mp heading
            obtain ⟨_, requiredEach⟩ :=
              (below (fields_subset_parts (.inl rfl) required)).mp requiredBelow
            obtain ⟨_, optionalEach⟩ :=
              (below (fields_subset_parts (.inr rfl) optional)).mp optionalBelow
            exact ⟨_, .record headed isKind required optional requiredEach optionalEach⟩
        | union heading isKind only nonempty each =>
            obtain ⟨label, headed⟩ := headingFits_iff.mp heading
            obtain ⟨_, describes⟩ := (below (alternatives_subset_parts only)).mp each
            exact ⟨_, .union headed isKind only nonempty describes⟩
      · rintro ⟨schema, describes⟩
        cases describes with
        | @scalar _ label headed kind isKind =>
            refine .scalar (headingFits_iff.mpr ⟨label, headed⟩) isKind ?_
            cases kind <;> simp [ScalarKind.text]
        | @list _ label element schema headed isKind only child =>
            exact .list (headingFits_iff.mpr ⟨label, headed⟩) isKind only
              ((ih element (element_mem_parts only)).mpr ⟨schema, child⟩)
        | @dictionary _ label value schema headed isKind only child =>
            exact .dictionary (headingFits_iff.mpr ⟨label, headed⟩) isKind only
              ((ih value (value_mem_parts only)).mpr ⟨schema, child⟩)
        | @record _ _ _ label _ _ headed isKind required optional requiredEach optionalEach =>
            exact .record (headingFits_iff.mpr ⟨label, headed⟩) isKind required optional
              ((below (fields_subset_parts (.inl rfl) required)).mpr ⟨_, requiredEach⟩)
              ((below (fields_subset_parts (.inr rfl) optional)).mpr ⟨_, optionalEach⟩)
        | @union _ label items schemas headed isKind only nonempty each =>
            exact .union (headingFits_iff.mpr ⟨label, headed⟩) isKind only nonempty
              ((below (alternatives_subset_parts only)).mpr ⟨_, each⟩)

/-! ### Unions -/

/-- No union in a schema is without alternatives. -/
inductive FilledUnions : Schema → Prop
  | scalar (label : Label) (kind : ScalarKind) : FilledUnions (.scalar label kind)
  | list (label : Label) {element : Schema} (below : FilledUnions element) :
      FilledUnions (.list label element)
  | dictionary (label : Label) {value : Schema} (below : FilledUnions value) :
      FilledUnions (.dictionary label value)
  | record (label : Label) {fields : List (Field Schema)}
      (below : ∀ field ∈ fields, FilledUnions field.schema) : FilledUnions (.record label fields)
  | union (label : Label) {alternatives : List Schema} (nonempty : alternatives ≠ [])
      (below : ∀ alternative ∈ alternatives, FilledUnions alternative) :
      FilledUnions (.union label alternatives)

theorem mem_tableOf {fields : List (String × Value)} {schemas : List Schema}
    {entry : String × Schema} (member : entry ∈ (tableOf fields schemas).entries) :
    entry.2 ∈ schemas := by
  have found : ((∅ : Table Schema).insertAll ((fields.map Prod.fst).zip schemas)).get? entry.1 =
      some entry.2 := Table.get?_eq_some_iff.mpr member
  rw [Table.get?_insertAll, Table.get?_empty, Option.or_none] at found
  exact (List.of_mem_zip (List.mem_reverse.mp (mem_of_findValue? found))).2

theorem filledUnions_of_describes {value : Value} (tagged : TextTagged value) :
    ∀ schema, Describes value schema → FilledUnions schema := by
  induction tagged with
  | plain noObject =>
      intro schema describes
      cases describes <;> cases noObject
  | @node members _ _ _ ih =>
      have below {values : List Value} {schemas : List Schema}
          (inside : ∀ value ∈ values, value ∈ parts members)
          (each : List.Forall₂ Describes values schemas) :
          ∀ schema ∈ schemas, FilledUnions schema := by
        intro schema member
        obtain ⟨value, inValues, describes⟩ := exists_left_of_mem each member
        exact ih value (inside value inValues) schema describes
      intro schema describes
      cases describes with
      | scalar headed kind isKind => exact .scalar _ kind
      | list headed isKind only child =>
          exact .list _ (ih _ (element_mem_parts only) _ child)
      | dictionary headed isKind only child =>
          exact .dictionary _ (ih _ (value_mem_parts only) _ child)
      | record headed isKind required optional requiredEach optionalEach =>
          refine .record _ fun field member => ?_
          rcases Field.mem_compose member with ⟨entry, inside, same⟩ | ⟨entry, inside, same⟩ <;>
            rw [← same]
          · exact below (fields_subset_parts (.inl rfl) required) requiredEach _
              (mem_tableOf inside)
          · exact below (fields_subset_parts (.inr rfl) optional) optionalEach _
              (mem_tableOf inside)
      | union headed isKind only nonempty each =>
          refine .union _ ?_ (below (alternatives_subset_parts only) each)
          rintro rfl
          cases each
          exact nonempty rfl

/--
A value whose kinds and markers are texts is read as a schema exactly when it is the document
of one: its kind is one of the seven, the parts that the kind asks for are there and are such
documents themselves, and name and marker, if given, are of the right form. Other keys decide
nothing. What is read is the schema that the value describes, and none of its unions is empty.
-/
theorem readSchema_succeeds_iff {value : Value} (tagged : TextTagged value) :
    (Succeeds (readSchema .json (ofValue value)) ↔ IsNode value) ∧
    (∀ schema, readSchema .json (ofValue value) = .ok schema ↔ Describes value schema) ∧
    (∀ schema, readSchema .json (ofValue value) = .ok schema → FilledUnions schema) := by
  have read := readSchema_iff_describes tagged .json rfl
  refine ⟨?_, read, ?_⟩
  · rw [isNode_iff_describes tagged]
    exact exists_congr read
  · intro schema done
    exact filledUnions_of_describes tagged schema ((read schema).mp done)

/-- A record that is named as a block and marked as none, with a field named `kind`. -/
def ruleNode : Value := .object [
  ("kind", .string "record"), ("name", .string "BlockSchema"), ("marker", .string "none"),
  ("note", .list [.null]),
  ("required", .object [("kind", .object [("kind", .string "string")])]),
  ("optional", .object [("rules", .object [("kind", .string "list"),
    ("element", .object [("kind", .string "union"), ("name", .string "BlockSchema"),
      ("marker", .null), ("alternatives", .list [.object [("kind", .string "number")]])])])])]

def ruleSchema : Schema := .record ⟨.none, some "BlockSchema"⟩ [
  ⟨"kind", true, .scalar {} .string⟩,
  ⟨"rules", false, .list {} (.union ⟨.block, some "BlockSchema"⟩ [.scalar {} .number])⟩]

theorem ruleNode_describes :
    TextTagged ruleNode ∧ readSchema .json (ofValue ruleNode) = .ok ruleSchema ∧
      IsNode ruleNode ∧ Describes ruleNode ruleSchema ∧ FilledUnions ruleSchema := by
  have scalar (kind : String) : TextTagged (.object [("kind", .string kind)]) :=
    .node (by simp [valuesAt]) (by simp [valuesAt]) (by simp [parts, valuesAt])
  have union : TextTagged (.object [("kind", .string "union"), ("name", .string "BlockSchema"),
      ("marker", .null), ("alternatives", .list [.object [("kind", .string "number")]])]) :=
    .node (by simp [valuesAt]) (by simp [valuesAt])
      (by simpa [parts, valuesAt, itemsOf, Value.asList?] using scalar "number")
  have rules : TextTagged (.object [("kind", .string "list"), ("element", .object [
      ("kind", .string "union"), ("name", .string "BlockSchema"), ("marker", .null),
      ("alternatives", .list [.object [("kind", .string "number")]])])]) :=
    .node (by simp [valuesAt]) (by simp [valuesAt]) (by simpa [parts, valuesAt] using union)
  have tagged : TextTagged ruleNode :=
    .node (by simp [valuesAt]) (by simp [valuesAt])
      (by simpa [parts, valuesAt, fieldsOf, Value.asObject?] using ⟨scalar "string", rules⟩)
  have read : readSchema .json (ofValue ruleNode) = .ok ruleSchema := rfl
  obtain ⟨succeeds, describes, filled⟩ := readSchema_succeeds_iff tagged
  exact ⟨tagged, read, succeeds.mp ⟨_, read⟩, (describes _).mp read, filled _ read⟩

end Stanza.Document
