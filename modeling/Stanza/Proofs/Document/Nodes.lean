import Stanza.Proofs.Document.Slots
import Stanza.Proofs.Table.Filling

set_option autoImplicit false

/-!
The grammar of schema documents in JSON. A document is read exactly when it is a node all the
way down, and then as the schema that it describes; a marker that is given counts more than
the one that a name implies, and no union comes out empty.
-/

namespace Stanza.Document

/-! ### Names and markers -/

/-- The name that is given: absent and null are both no name. -/
inductive NameGiven : List Value → Option String → Prop
  | absent : NameGiven [] none
  | null : NameGiven [.null] none
  | text (name : String) : NameGiven [.string name] (some name)

/-- The marker that a name stands for. -/
def impliedMarker (name : Option String) : Marker :=
  if name = some "BlockSchema" then .block
  else if name = some "ResourceSchema" then .resource
  else .none

/-- The marker that is given, or else the one that the name stands for. -/
inductive MarkerGiven (name : Option String) : List Value → Marker → Prop
  | absent : MarkerGiven name [] (impliedMarker name)
  | null : MarkerGiven name [.null] (impliedMarker name)
  | text (marker : Marker) : MarkerGiven name [.string marker.text] marker

structure Headed (members : List (String × Value)) (label : Label) : Prop where
  name : NameGiven (valuesAt "name" members) label.name
  marker : MarkerGiven label.name (valuesAt "marker" members) label.marker

/-- The fields of a part of a record, of which there are none when the part is absent. -/
inductive FieldsGiven : List Value → List (String × Value) → Prop
  | absent : FieldsGiven [] []
  | object (fields : List (String × Value)) : FieldsGiven [.object fields] fields

/-! ### What a document describes -/

/-- Schemas under the names of some fields. -/
def tableOf (fields : List (String × Value)) (schemas : List Schema) : Table Schema :=
  .ofList ((fields.map Prod.fst).zip schemas)

/-- A value that describes a schema: of the same shape, with what its parts describe in it. -/
inductive Describes : Value → Schema → Prop
  | scalar {members : List (String × Value)} {label : Label} (headed : Headed members label)
      (kind : ScalarKind) (isKind : valuesAt "kind" members = [.string kind.text]) :
      Describes (.object members) (.scalar label kind)
  | list {members : List (String × Value)} {label : Label} {element : Value} {schema : Schema}
      (headed : Headed members label) (isKind : valuesAt "kind" members = [.string "list"])
      (only : valuesAt "element" members = [element]) (below : Describes element schema) :
      Describes (.object members) (.list label schema)
  | dictionary {members : List (String × Value)} {label : Label} {value : Value}
      {schema : Schema} (headed : Headed members label)
      (isKind : valuesAt "kind" members = [.string "dictionary"])
      (only : valuesAt "value" members = [value]) (below : Describes value schema) :
      Describes (.object members) (.dictionary label schema)
  | record {members requiredFields optionalFields : List (String × Value)} {label : Label}
      {requiredSchemas optionalSchemas : List Schema} (headed : Headed members label)
      (isKind : valuesAt "kind" members = [.string "record"])
      (required : FieldsGiven (valuesAt "required" members) requiredFields)
      (optional : FieldsGiven (valuesAt "optional" members) optionalFields)
      (requiredBelow : List.Forall₂ Describes (requiredFields.map Prod.snd) requiredSchemas)
      (optionalBelow : List.Forall₂ Describes (optionalFields.map Prod.snd) optionalSchemas) :
      Describes (.object members) (.record label (Field.compose
        (tableOf requiredFields requiredSchemas) (tableOf optionalFields optionalSchemas)))
  | union {members : List (String × Value)} {label : Label} {items : List Value}
      {schemas : List Schema} (headed : Headed members label)
      (isKind : valuesAt "kind" members = [.string "union"])
      (only : valuesAt "alternatives" members = [.list items]) (nonempty : items ≠ [])
      (below : List.Forall₂ Describes items schemas) :
      Describes (.object members) (.union label schemas)

/-- A heading that can be read: a name and a marker, if any, of the right form. -/
structure HeadingFits (members : List (String × Value)) : Prop where
  name : valuesAt "name" members = [] ∨ valuesAt "name" members = [.null] ∨
    ∃ name, valuesAt "name" members = [.string name]
  marker : valuesAt "marker" members = [] ∨ valuesAt "marker" members = [.null] ∨
    ∃ name ∈ ["none", "block", "resource"], valuesAt "marker" members = [.string name]

/-- The documents of schemas. -/
inductive IsNode : Value → Prop
  | scalar {members : List (String × Value)} {kind : String} (heading : HeadingFits members)
      (isKind : valuesAt "kind" members = [.string kind])
      (isScalar : kind ∈ ["string", "boolean", "number"]) : IsNode (.object members)
  | list {members : List (String × Value)} {element : Value} (heading : HeadingFits members)
      (isKind : valuesAt "kind" members = [.string "list"])
      (only : valuesAt "element" members = [element]) (below : IsNode element) :
      IsNode (.object members)
  | dictionary {members : List (String × Value)} {value : Value} (heading : HeadingFits members)
      (isKind : valuesAt "kind" members = [.string "dictionary"])
      (only : valuesAt "value" members = [value]) (below : IsNode value) :
      IsNode (.object members)
  | record {members requiredFields optionalFields : List (String × Value)}
      (heading : HeadingFits members) (isKind : valuesAt "kind" members = [.string "record"])
      (required : FieldsGiven (valuesAt "required" members) requiredFields)
      (optional : FieldsGiven (valuesAt "optional" members) optionalFields)
      (requiredBelow : ∀ value ∈ requiredFields.map Prod.snd, IsNode value)
      (optionalBelow : ∀ value ∈ optionalFields.map Prod.snd, IsNode value) :
      IsNode (.object members)
  | union {members : List (String × Value)} {items : List Value} (heading : HeadingFits members)
      (isKind : valuesAt "kind" members = [.string "union"])
      (only : valuesAt "alternatives" members = [.list items]) (nonempty : items ≠ [])
      (below : ∀ item ∈ items, IsNode item) : IsNode (.object members)

/-! ### Where nodes stand -/

def itemsOf (value : Value) : List Value := value.asList?.getD []

def fieldsOf (value : Value) : List Value := (value.asObject?.getD []).map Prod.snd

/-- The values of an object that may be nodes below it. -/
def parts (members : List (String × Value)) : List Value :=
  valuesAt "element" members ++ valuesAt "value" members ++
    (valuesAt "alternatives" members).flatMap itemsOf ++
    (valuesAt "required" members ++ valuesAt "optional" members).flatMap fieldsOf

/-- Wherever a node may stand its kind is a text, and its marker is a text or null. -/
inductive TextTagged : Value → Prop
  | plain {value : Value} (noObject : value.asObject? = none) : TextTagged value
  | node {members : List (String × Value)}
      (kind : ∀ value ∈ valuesAt "kind" members, ∃ text, value = .string text)
      (marker : ∀ value ∈ valuesAt "marker" members, value = .null ∨ ∃ text, value = .string text)
      (below : ∀ part ∈ parts members, TextTagged part) : TextTagged (.object members)

section Parts

variable {members fields : List (String × Value)} {value : Value} {items : List Value}

theorem element_mem_parts (only : valuesAt "element" members = [value]) :
    value ∈ parts members := by simp [parts, only]

theorem value_mem_parts (only : valuesAt "value" members = [value]) :
    value ∈ parts members := by simp [parts, only]

theorem alternatives_subset_parts (only : valuesAt "alternatives" members = [.list items]) :
    ∀ item ∈ items, item ∈ parts members := by
  intro item member
  simp [parts, only, itemsOf, Value.asList?, member]

theorem fields_subset_parts {key : String} (isPart : key = "required" ∨ key = "optional")
    (given : FieldsGiven (valuesAt key members) fields) :
    ∀ value ∈ fields.map Prod.snd, value ∈ parts members := by
  intro value member
  generalize held : valuesAt key members = values at given
  cases given with
  | absent => cases member
  | object =>
      rcases isPart with rfl | rfl
      · rw [parts, held]
        simp only [List.flatMap_append, List.mem_append]
        exact .inr (.inl (by simpa [fieldsOf, Value.asObject?] using member))
      · rw [parts, held]
        simp only [List.flatMap_append, List.mem_append]
        exact .inr (.inr (by simpa [fieldsOf, Value.asObject?] using member))

end Parts

/-! ### Reading headings and kinds -/

/-- The word for a kind in documents. -/
def SchemaKind.word : SchemaKind → String
  | .scalar kind => kind.text
  | .list => "list"
  | .dictionary => "dictionary"
  | .record => "record"
  | .union => "union"

theorem SchemaKind.read_iff (text : String) (kind : SchemaKind) :
    SchemaKind.read (ofValue (.string text)) = .ok kind ↔ text = kind.word := by
  have found : SchemaKind.ofText? text = some kind ↔ text = kind.word := by
    rw [SchemaKind.ofText?, findValue?_eq_some_iff (by decide)]
    rcases kind with ⟨_ | _ | _⟩ | _ | _ | _ | _ <;>
      simp [SchemaKind.all, SchemaKind.word, ScalarKind.text]
  rw [← found, ofValue, SchemaKind.read]
  simp only [Reading.index?, Reading.text?, Option.bind_some]
  cases SchemaKind.ofText? text <;> simp [malformed]

theorem Marker.find?_iff (text : String) (marker : Marker) :
    (Marker.all.find? fun choice => choice.text = text) = some marker ↔ text = marker.text := by
  constructor
  · intro found
    exact (of_decide_eq_true (List.find?_some found :)).symm
  · rintro rfl
    cases marker <;> decide

theorem readMarker_string_iff (reading : Reading) (text : String) (marker : Option Marker) :
    readMarker reading (ofValue (.string text)) = .ok marker ↔
      ∃ given : Marker, marker = some given ∧ text = given.text := by
  simp only [ofValue, readMarker, Reading.choice, Reading.text?, Option.bind_some]
  simp only [← Marker.find?_iff]
  cases Marker.all.find? fun choice => choice.text = text with
  | none => simp [malformed, Except.map]
  | some given => simp [Except.map, eq_comm]

theorem optionalText_iff {reading : Reading} (noWords : reading.wordIsText = false)
    (value : Value) (name : Option String) :
    reading.optionalText (ofValue value) = .ok name ↔
      (value = .null ∧ name = none) ∨ ∃ text, value = .string text ∧ name = some text := by
  have read : reading.optionalText (ofValue value) = match value with
      | .null => .ok none
      | .string text => .ok (some text)
      | _ => malformed := by
    cases value with
    | null | string | list | object => rfl
    | bool | number => simp [ofValue, Reading.optionalText, Reading.text, Reading.text?, noWords,
        malformed, Except.map]
  rw [read]
  cases value <;> simp [malformed, eq_comm]

theorem Heading.label_eq (heading : Heading) :
    heading.label = {
      marker := (heading.marker.getD none).getD (impliedMarker (heading.name.getD none))
      name := heading.name.getD none } := by
  unfold Heading.label
  cases heading.name.getD none <;> simp [impliedMarker, Marker.ofSchemaName]

section Heading

variable {reading : Reading} {members : List (String × Value)}

theorem nameGiven_iff (noWords : reading.wordIsText = false) (values : List Value)
    (name : Option String) :
    (∃ found, FilledBy (fun value => reading.optionalText (ofValue value)) values found ∧
      found.getD none = name) ↔ NameGiven values name := by
  constructor
  · rintro ⟨found, filled, rfl⟩
    cases filled with
    | absent => exact .absent
    | once decoded =>
        rcases (optionalText_iff noWords _ _).mp decoded with ⟨rfl, rfl⟩ | ⟨text, rfl, rfl⟩
        · exact .null
        · exact .text text
  · intro given
    cases given with
    | absent => exact ⟨none, .absent, rfl⟩
    | null => exact ⟨some none, .once ((optionalText_iff noWords _ _).mpr (.inl ⟨rfl, rfl⟩)), rfl⟩
    | text name =>
        exact ⟨some (some name),
          .once ((optionalText_iff noWords _ _).mpr (.inr ⟨name, rfl, rfl⟩)), rfl⟩

theorem markerGiven_iff (reading : Reading) {values : List Value}
    (tagged : ∀ value ∈ values, value = .null ∨ ∃ text, value = .string text)
    (name : Option String) (marker : Marker) :
    (∃ found, FilledBy (fun value => readMarker reading (ofValue value)) values found ∧
      (found.getD none).getD (impliedMarker name) = marker) ↔ MarkerGiven name values marker := by
  constructor
  · rintro ⟨found, filled, rfl⟩
    cases filled with
    | absent => exact .absent
    | once decoded =>
        rcases tagged _ List.mem_cons_self with rfl | ⟨text, rfl⟩
        · cases decoded
          exact .null
        · obtain ⟨given, rfl, rfl⟩ := (readMarker_string_iff _ _ _).mp decoded
          exact .text given
  · intro given
    cases given with
    | absent => exact ⟨none, .absent, rfl⟩
    | null => exact ⟨some none, .once rfl, rfl⟩
    | text =>
        exact ⟨some (some marker),
          .once ((readMarker_string_iff _ _ _).mpr ⟨marker, rfl, rfl⟩), rfl⟩

/-- The label of a heading that is read is the one that the members give. -/
theorem readHeading_iff (noWords : reading.wordIsText = false)
    (tagged : ∀ value ∈ valuesAt "marker" members, value = .null ∨ ∃ text, value = .string text)
    (label : Label) :
    (∃ heading, readHeading reading (ofMembers members) = .ok heading ∧
      heading.label = label) ↔ Headed members label := by
  have read (heading : Heading) := readHeading_ofMembers reading {} heading members
  simp only [foldlM_takeOnce_iff] at read
  constructor
  · rintro ⟨heading, done, rfl⟩
    obtain ⟨isName, isMarker⟩ := (read heading).mp done
    rw [heading.label_eq]
    exact ⟨(nameGiven_iff noWords _ _).mp ⟨_, isName, rfl⟩,
      (markerGiven_iff reading tagged _ _).mp ⟨_, isMarker, rfl⟩⟩
  · intro headed
    obtain ⟨foundName, isName, sameName⟩ := (nameGiven_iff noWords _ _).mpr headed.name
    obtain ⟨foundMarker, isMarker, sameMarker⟩ :=
      (markerGiven_iff reading tagged _ _).mpr headed.marker
    refine ⟨⟨foundName, foundMarker⟩, (read _).mpr ⟨isName, isMarker⟩, ?_⟩
    rw [Heading.label_eq, sameName, sameMarker]

theorem readKind_iff (tagged : ∀ value ∈ valuesAt "kind" members, ∃ text, value = .string text)
    (kind : SchemaKind) :
    readKind reading none (ofMembers members) = .ok kind ↔
      valuesAt "kind" members = [.string kind.word] := by
  rw [readKind_ofMembers, foldlM_takeOnce_needed_iff]
  constructor
  · rintro ⟨value, only, decoded⟩
    obtain ⟨text, rfl⟩ := tagged value (only ▸ List.mem_singleton_self value)
    rw [only, (SchemaKind.read_iff text kind).mp decoded]
  · intro only
    exact ⟨_, only, (SchemaKind.read_iff _ _).mpr rfl⟩

end Heading

/-! ### Reading parts -/

theorem readSchemaItems_ofItems (items : List Value) :
    readSchemaItems (ofItems items) = items.mapM readInner := by
  induction items with
  | nil => rfl
  | cons item rest ih =>
      rw [ofItems, readSchemaItems, ih, List.mapM_cons]
      rfl

theorem readSchemaList_iff (value : Value) (schemas : List Schema) :
    readSchemaList (ofValue value) = .ok schemas ↔
      ∃ items, value = .list items ∧ items.mapM readInner = .ok schemas := by
  cases value with
  | list items =>
      rw [ofValue, readSchemaList, readSchemaItems_ofItems]
      simp
  | _ => simp [ofValue, readSchemaList, malformed]

theorem readSchemaEntries_iff (table result : Table Schema) (fields : List (String × Value)) :
    readSchemaEntries table (ofMembers fields) = .ok result ↔
      ∃ schemas, (fields.map Prod.snd).mapM readInner = .ok schemas ∧
        result = table.insertAll ((fields.map Prod.fst).zip schemas) := by
  induction fields generalizing table with
  | nil => simp [ofMembers, readSchemaEntries, pure, Except.pure, eq_comm]
  | cons field rest ih =>
      obtain ⟨key, value⟩ := field
      rw [ofMembers, readSchemaEntries, Reading.text, Reading.text?, List.map_cons,
        List.map_cons, List.mapM_cons]
      simp only [bind_eq_ok_iff, Except.ok.injEq, exists_eq_left', ih]
      constructor
      · rintro ⟨schema, here, schemas, later, rfl⟩
        exact ⟨schema :: schemas, ⟨schema, here, schemas, later, rfl⟩, rfl⟩
      · rintro ⟨_, ⟨schema, here, schemas, later, same⟩, rfl⟩
        cases same
        exact ⟨schema, here, schemas, later, rfl⟩

theorem readSchemaTable_iff (value : Value) (table : Table Schema) :
    readSchemaTable (ofValue value) = .ok table ↔
      ∃ fields schemas, value = .object fields ∧
        (fields.map Prod.snd).mapM readInner = .ok schemas ∧ table = tableOf fields schemas := by
  cases value with
  | object members =>
      rw [ofValue, readSchemaTable, readSchemaEntries_iff]
      constructor
      · rintro ⟨schemas, read, same⟩
        exact ⟨members, schemas, rfl, read, same⟩
      · rintro ⟨_, schemas, same, read, isTable⟩
        cases same
        exact ⟨schemas, read, isTable⟩
  | _ => simp [ofValue, readSchemaTable, malformed]

/-- A table of a record is read from the fields that are given, without any as an empty one. -/
theorem table_iff (values : List Value) (table : Table Schema) :
    (∃ found, FilledBy (fun value => readSchemaTable (ofValue value)) values found ∧
      found.getD ∅ = table) ↔
      ∃ fields schemas, FieldsGiven values fields ∧
        (fields.map Prod.snd).mapM readInner = .ok schemas ∧ table = tableOf fields schemas := by
  constructor
  · rintro ⟨found, filled, rfl⟩
    cases filled with
    | absent => exact ⟨[], [], .absent, rfl, rfl⟩
    | once decoded =>
        obtain ⟨fields, schemas, rfl, read, rfl⟩ := (readSchemaTable_iff _ _).mp decoded
        exact ⟨fields, schemas, .object fields, read, rfl⟩
  · rintro ⟨fields, schemas, given, read, rfl⟩
    cases given with
    | absent =>
        cases read
        exact ⟨none, .absent, rfl⟩
    | object =>
        exact ⟨some _, .once ((readSchemaTable_iff _ _).mpr ⟨fields, schemas, rfl, read, rfl⟩),
          rfl⟩

/-! ### Reading nodes -/

/-- The parts of a node of a kind are read as a schema. -/
def readParts (reading : Reading) (label : Label) (members : List (String × Value)) :
    SchemaKind → Decoded Schema
  | .scalar kind => .ok (.scalar label kind)
  | .list => readChild reading "element" none (ofMembers members) >>= fun element =>
      .ok (.list label element)
  | .dictionary => readChild reading "value" none (ofMembers members) >>= fun value =>
      .ok (.dictionary label value)
  | .record => readFieldTables reading {} (ofMembers members) >>= fun tables =>
      .ok (.record label (Field.compose (tables.required.getD ∅) (tables.optional.getD ∅)))
  | .union => readAlternatives reading none (ofMembers members) >>= fun alternatives =>
      if alternatives.isEmpty then .error (.emptyUnion label.name)
      else .ok (.union label alternatives)

theorem readSchema_object (reading : Reading) (members : List (String × Value)) :
    readSchema reading (ofValue (.object members)) =
      readHeading reading (ofMembers members) >>= fun heading =>
        readKind reading none (ofMembers members) >>= readParts reading heading.label members := by
  rw [ofValue, readSchema]
  cases readHeading reading (ofMembers members) with
  | error error => rfl
  | ok heading =>
      cases readKind reading none (ofMembers members) with
      | error error => rfl
      | ok kind => cases kind <;> rfl

end Stanza.Document
