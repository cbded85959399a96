import Stanza.Document.SchemaDocument
import Stanza.Proofs.Outcome

set_option autoImplicit false

/-!
The parts of a schema document that come from a value. Each part has its key, which may be
there once; what stands under other keys decides nothing. Heading, kind, child, field tables
and alternatives are all read in this way.
-/

namespace Stanza.Document

/-- The values under a key, in order. -/
def valuesAt (key : String) (members : List (String × Value)) : List Value :=
  (members.filter fun member => member.1 = key).map Prod.snd

theorem valuesAt_cons_self (key : String) (value : Value) (rest : List (String × Value)) :
    valuesAt key ((key, value) :: rest) = value :: valuesAt key rest := by
  simp [valuesAt]

theorem valuesAt_cons_of_ne {key other : String} (apart : other ≠ key) (value : Value)
    (rest : List (String × Value)) :
    valuesAt key ((other, value) :: rest) = valuesAt key rest := by
  simp [valuesAt, apart]

/-! ### Places that are filled once -/

section Once

variable {α : Type} {key : String} {decode : Value → Decoded α}

/-- Takes in one member. The value under the key fills a place that must be free. -/
def takeOnce (key : String) (decode : Value → Decoded α) (found : Option α)
    (member : String × Value) : Decoded (Option α) :=
  if member.1 = key then
    match found with
    | some _ => malformed
    | none => (decode member.2).map some
  else .ok found

/-- What some values leave in a place: nothing, or what the only one of them is decoded to. -/
inductive FilledBy (decode : Value → Decoded α) : List Value → Option α → Prop
  | absent : FilledBy decode [] none
  | once {value : Value} {item : α} (decoded : decode value = .ok item) :
      FilledBy decode [value] (some item)

theorem takeOnce_of_ne {other : String} (apart : other ≠ key) (found : Option α)
    (value : Value) : takeOnce key decode found (other, value) = .ok found := if_neg apart

theorem takeOnce_some (item : α) (value : Value) :
    takeOnce key decode (some item) (key, value) = malformed := if_pos rfl

theorem takeOnce_none (value : Value) :
    takeOnce key decode none (key, value) = (decode value).map some := if_pos rfl

theorem foldlM_takeOnce_some (item : α) (members : List (String × Value)) (result : Option α) :
    members.foldlM (takeOnce key decode) (some item) = .ok result ↔
      valuesAt key members = [] ∧ result = some item := by
  induction members with
  | nil => simp [valuesAt, pure, Except.pure, eq_comm]
  | cons member rest ih =>
      obtain ⟨other, value⟩ := member
      rw [List.foldlM_cons]
      by_cases own : other = key
      · subst own
        rw [takeOnce_some, valuesAt_cons_self]
        simp [malformed, bind, Except.bind]
      · rw [takeOnce_of_ne own, valuesAt_cons_of_ne own]
        exact ih

theorem foldlM_takeOnce_iff (members : List (String × Value)) (result : Option α) :
    members.foldlM (takeOnce key decode) none = .ok result ↔
      FilledBy decode (valuesAt key members) result := by
  induction members with
  | nil =>
      constructor
      · intro same
        cases same
        exact .absent
      · intro filled
        cases filled
        rfl
  | cons member rest ih =>
      obtain ⟨other, value⟩ := member
      rw [List.foldlM_cons]
      by_cases own : other = key
      · subst own
        rw [takeOnce_none, valuesAt_cons_self]
        cases decoded : decode value with
        | error error =>
            constructor
            · intro same
              cases same
            · intro filled
              generalize valuesAt other rest = others at filled
              cases filled with
              | once again => cases decoded.symm.trans again
        | ok item =>
            refine (foldlM_takeOnce_some item rest result).trans ?_
            constructor
            · rintro ⟨nothing, rfl⟩
              rw [nothing]
              exact .once decoded
            · intro filled
              generalize valuesAt other rest = others at filled
              cases filled with
              | once again =>
                  cases decoded.symm.trans again
                  exact ⟨rfl, rfl⟩
      · rw [takeOnce_of_ne own, valuesAt_cons_of_ne own]
        exact ih

/-- A part that must be there. -/
def needed : Option α → Decoded α
  | some item => .ok item
  | none => malformed

theorem foldlM_takeOnce_needed_iff (members : List (String × Value)) (item : α) :
    (members.foldlM (takeOnce key decode) none >>= needed) = .ok item ↔
      ∃ value, valuesAt key members = [value] ∧ decode value = .ok item := by
  rw [bind_eq_ok_iff]
  simp only [foldlM_takeOnce_iff]
  constructor
  · rintro ⟨result, filled, isNeeded⟩
    generalize valuesAt key members = values at filled
    cases filled with
    | absent => cases isNeeded
    | @once value _ decoded =>
        cases isNeeded
        exact ⟨value, rfl, decoded⟩
  · rintro ⟨value, only, decoded⟩
    rw [only]
    exact ⟨some item, .once decoded, rfl⟩

theorem takeOnce_bind {β : Type} (found : Option α) (member : String × Value)
    (next : Option α → Decoded β) :
    (takeOnce key decode found member >>= next) =
      if member.1 = key then
        match found with
        | some _ => malformed
        | none => decode member.2 >>= fun item => next (some item)
      else next found := by
  unfold takeOnce
  split_ifs
  · cases found with
    | some item => rfl
    | none => cases decode member.2 <;> rfl
  · rfl

/-- A reader that takes in one entry after the other fills its place from the members. -/
theorem read_ofMembers {read : Option α → List (Document × Document) → Decoded α}
    (done : ∀ found, read found [] = needed found)
    (step : ∀ found name value rest, read found ((.quoted name, ofValue value) :: rest) =
      takeOnce key decode found (name, value) >>= fun next => read next rest)
    (found : Option α) (members : List (String × Value)) :
    read found (ofMembers members) = members.foldlM (takeOnce key decode) found >>= needed := by
  induction members generalizing found with
  | nil => exact done found
  | cons member rest ih =>
      obtain ⟨name, value⟩ := member
      rw [ofMembers, step, List.foldlM_cons]
      cases takeOnce key decode found (name, value) with
      | error error => rfl
      | ok next => exact ih next

/-- A reader that fills two places side by side fills each as if it were alone. -/
theorem readBoth_ofMembers {β σ : Type} {other : String} {decodeOther : Value → Decoded β}
    (make : Option α → Option β → σ)
    (read : Option α → Option β → List (Document × Document) → Decoded σ)
    (apart : ∀ first first' second second', make first second = make first' second' ↔
      first = first' ∧ second = second')
    (done : ∀ first second, read first second [] = .ok (make first second))
    (step : ∀ first second name value rest,
      read first second ((.quoted name, ofValue value) :: rest) =
        takeOnce key decode first (name, value) >>= fun first =>
          takeOnce other decodeOther second (name, value) >>= fun second => read first second rest)
    (first finalFirst : Option α) (second finalSecond : Option β)
    (members : List (String × Value)) :
    read first second (ofMembers members) = .ok (make finalFirst finalSecond) ↔
      members.foldlM (takeOnce key decode) first = .ok finalFirst ∧
        members.foldlM (takeOnce other decodeOther) second = .ok finalSecond := by
  induction members generalizing first second with
  | nil => simp [ofMembers, done, apart, pure, Except.pure]
  | cons member rest ih =>
      obtain ⟨name, value⟩ := member
      rw [ofMembers, step, List.foldlM_cons, List.foldlM_cons]
      cases takeOnce key decode first (name, value) with
      | error error => simp [bind, Except.bind]
      | ok next =>
          cases takeOnce other decodeOther second (name, value) with
          | error error => simp [bind, Except.bind]
          | ok nextOther => exact ih next nextOther

end Once

/-! ### Parts of a schema -/

theorem isField_quoted (reading : Reading) (name key : String) (position : Nat) :
    reading.isField name position (.quoted key) = true ↔ key = name := by
  simp [Reading.isField, Reading.text?, Reading.index?]

/-- A schema in a value below the top of a document. -/
def readInner (value : Value) : Decoded Schema := readSchema Reading.inner (ofValue value)

theorem readKind_cons (reading : Reading) (found : Option SchemaKind) (key value : Document)
    (rest : List (Document × Document)) :
    readKind reading found ((key, value) :: rest) =
      if reading.text? key = some "kind" then
        match found with
        | some _ => malformed
        | none => SchemaKind.read value >>= fun kind => readKind reading (some kind) rest
      else readKind reading found rest := by
  cases found <;> rfl

theorem readChild_cons (reading : Reading) (name : String) (found : Option Schema)
    (key value : Document) (rest : List (Document × Document)) :
    readChild reading name found ((key, value) :: rest) =
      if reading.isField name 0 key then
        match found with
        | some _ => malformed
        | none => readSchema Reading.inner value >>= fun schema =>
            readChild reading name (some schema) rest
      else readChild reading name found rest := by
  cases found <;> rfl

theorem readAlternatives_cons (reading : Reading) (found : Option (List Schema))
    (key value : Document) (rest : List (Document × Document)) :
    readAlternatives reading found ((key, value) :: rest) =
      if reading.isField "alternatives" 0 key then
        match found with
        | some _ => malformed
        | none => readSchemaList value >>= fun alternatives =>
            readAlternatives reading (some alternatives) rest
      else readAlternatives reading found rest := by
  cases found <;> rfl

theorem readKind_ofMembers (reading : Reading) (found : Option SchemaKind)
    (members : List (String × Value)) :
    readKind reading found (ofMembers members) =
      members.foldlM (takeOnce "kind" fun value => SchemaKind.read (ofValue value)) found >>=
        needed := by
  refine read_ofMembers (fun found => ?_) (fun found name value rest => ?_) found members
  · cases found <;> rfl
  · rw [readKind_cons, takeOnce_bind]
    cases found <;> simp only [Reading.text?, Option.some.injEq]

theorem readChild_ofMembers (reading : Reading) (name : String) (found : Option Schema)
    (members : List (String × Value)) :
    readChild reading name found (ofMembers members) =
      members.foldlM (takeOnce name readInner) found >>= needed := by
  refine read_ofMembers (fun found => ?_) (fun found key value rest => ?_) found members
  · cases found <;> rfl
  · rw [readChild_cons, takeOnce_bind]
    cases found <;> simp only [isField_quoted, readInner]

theorem readAlternatives_ofMembers (reading : Reading) (found : Option (List Schema))
    (members : List (String × Value)) :
    readAlternatives reading found (ofMembers members) =
      members.foldlM (takeOnce "alternatives" fun value => readSchemaList (ofValue value))
        found >>= needed := by
  refine read_ofMembers (fun found => ?_) (fun found name value rest => ?_) found members
  · cases found <;> rfl
  · rw [readAlternatives_cons, takeOnce_bind]
    cases found <;> simp only [isField_quoted]

theorem readFieldTables_ofMembers (reading : Reading) (tables result : FieldTables)
    (members : List (String × Value)) :
    readFieldTables reading tables (ofMembers members) = .ok result ↔
      members.foldlM (takeOnce "required" fun value => readSchemaTable (ofValue value))
          tables.required = .ok result.required ∧
        members.foldlM (takeOnce "optional" fun value => readSchemaTable (ofValue value))
          tables.optional = .ok result.optional := by
  refine readBoth_ofMembers FieldTables.mk
    (fun required optional => readFieldTables reading ⟨required, optional⟩)
    (fun _ _ _ _ => by simp) (fun _ _ => rfl) (fun required optional name value rest => ?_)
    _ _ _ _ members
  simp only [takeOnce_bind, readFieldTables, isField_quoted]
  by_cases isRequired : name = "required"
  · subst isRequired
    cases required <;> simp
  · by_cases isOptional : name = "optional"
    · subst isOptional
      cases optional <;> simp
    · simp [isRequired, isOptional]

/-! ### The heading -/

mutual
/-- What comes from a value can be held. -/
theorem inRange_ofValue (value : Value) : (ofValue value).inRange = true := by
  cases value with
  | null | bool | number | string => rfl
  | list items => exact allInRange_ofItems items
  | object members => exact entriesInRange_ofMembers members

theorem allInRange_ofItems (items : List Value) : allInRange (ofItems items) = true := by
  cases items with
  | nil => rfl
  | cons item rest =>
      rw [ofItems, allInRange, inRange_ofValue item, allInRange_ofItems rest]
      rfl

theorem entriesInRange_ofMembers (members : List (String × Value)) :
    entriesInRange (ofMembers members) = true := by
  cases members with
  | nil => rfl
  | cons member rest =>
      obtain ⟨key, value⟩ := member
      rw [ofMembers, entriesInRange, inRange_ofValue value, entriesInRange_ofMembers rest]
      rfl
end

theorem readHeadingEntry_quoted (reading : Reading) (heading : Heading) (key : String)
    (value : Value) :
    readHeadingEntry reading heading (.quoted key, ofValue value) =
      takeOnce "name" (fun value => reading.optionalText (ofValue value)) heading.name
          (key, value) >>= fun name =>
        takeOnce "marker" (fun value => readMarker reading (ofValue value)) heading.marker
            (key, value) >>= fun marker => .ok ⟨name, marker⟩ := by
  obtain ⟨name, marker⟩ := heading
  have held : ((Document.quoted key).inRange && (ofValue value).inRange) = true := by
    rw [inRange_ofValue]
    rfl
  simp only [takeOnce_bind, readHeadingEntry, Reading.isKey, Reading.text?, Option.isSome_some,
    Bool.true_or, if_true]
  by_cases isName : key = "name"
  · subst isName
    cases name with
    | some name => simp
    | none => cases reading.optionalText (ofValue value) <;> simp [Except.map, bind, Except.bind]
  · by_cases isMarker : key = "marker"
    · subst isMarker
      cases marker with
      | some marker => simp
      | none => cases readMarker reading (ofValue value) <;> simp [Except.map, bind, Except.bind]
    · simp [isName, isMarker, held]

theorem readHeading_ofMembers (reading : Reading) (start heading : Heading)
    (members : List (String × Value)) :
    (ofMembers members).foldlM (readHeadingEntry reading) start = .ok heading ↔
      members.foldlM (takeOnce "name" fun value => reading.optionalText (ofValue value))
          start.name = .ok heading.name ∧
        members.foldlM (takeOnce "marker" fun value => readMarker reading (ofValue value))
          start.marker = .ok heading.marker := by
  refine readBoth_ofMembers Heading.mk
    (fun name marker entries => entries.foldlM (readHeadingEntry reading) ⟨name, marker⟩)
    (fun _ _ _ _ => by simp) (fun _ _ => rfl) (fun name marker key value rest => ?_) _ _ _ _ members
  simp only [List.foldlM_cons, readHeadingEntry_quoted, bind_assoc]
  rfl

end Stanza.Document
