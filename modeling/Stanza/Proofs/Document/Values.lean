import Stanza.Document.Reading
import Stanza.Proofs.Outcome
import Stanza.Proofs.Table.Filling

set_option autoImplicit false

/-!
Values that are read. Whatever the source, a value that is read has distinct keys in each of
its objects, and the document of such a value is read as that value again.
-/

namespace Stanza

namespace Value

theorem distinctItems_iff {items : List Value} :
    DistinctItems items ↔ ∀ item ∈ items, item.Distinct := by
  induction items with
  | nil => simp [DistinctItems]
  | cons item rest ih => simp [DistinctItems, ih]

theorem distinctMembers_iff {members : List (String × Value)} :
    DistinctMembers members ↔ ∀ member ∈ members, member.2.Distinct := by
  induction members with
  | nil => simp [DistinctMembers]
  | cons member rest ih => simp [DistinctMembers, ih]

theorem distinct_ofTable_iff {table : Table Value} :
    (ofTable table).Distinct ↔ ∀ entry ∈ table.entries, entry.2.Distinct := by
  rw [ofTable, Distinct, distinctMembers_iff]
  exact ⟨fun both => both.2, fun each => ⟨table.distinct, each⟩⟩

end Value

namespace Document.Reading

variable (reading : Reading)

/-! ### What is read -/

mutual
theorem distinct_of_value {document : Document} {result : Value}
    (read : reading.value document = .ok result) : result.Distinct := by
  cases document with
  | quoted text =>
      cases read
      trivial
  | broken => cases read
  | word text meaning =>
      cases meaning <;> cases read <;> trivial
  | list items =>
      obtain ⟨results, resultsAre, same⟩ := bind_eq_ok_iff.mp read
      cases same
      exact Value.distinctItems_iff.mpr (distinct_of_values resultsAre)
  | map entries =>
      obtain ⟨results, resultsAre, same⟩ := bind_eq_ok_iff.mp read
      cases same
      obtain ⟨keys, each⟩ := distinct_of_members (by simp) (by simp) resultsAre
      exact ⟨keys, Value.distinctMembers_iff.mpr each⟩

theorem distinct_of_values {items : List Document} {results : List Value}
    (read : reading.values items = .ok results) : ∀ result ∈ results, result.Distinct := by
  cases items with
  | nil =>
      cases read
      simp
  | cons item rest =>
      obtain ⟨first, firstIs, later⟩ := bind_eq_ok_iff.mp read
      obtain ⟨others, othersAre, same⟩ := bind_eq_ok_iff.mp later
      cases same
      exact List.forall_mem_cons.mpr ⟨distinct_of_value firstIs, distinct_of_values othersAre⟩

/-- The members read so far have distinct keys, and so have they all. -/
theorem distinct_of_members {entries : List (Document × Document)}
    {present results : List (String × Value)} (keys : (present.map Prod.fst).Nodup)
    (each : ∀ member ∈ present, member.2.Distinct)
    (read : reading.members present entries = .ok results) :
    (results.map Prod.fst).Nodup ∧ ∀ member ∈ results, member.2.Distinct := by
  cases entries with
  | nil =>
      cases read
      exact ⟨keys, each⟩
  | cons entry rest =>
      obtain ⟨keyDocument, item⟩ := entry
      obtain ⟨key, _, later⟩ := bind_eq_ok_iff.mp read
      obtain ⟨result, resultIs, others⟩ := bind_eq_ok_iff.mp later
      refine distinct_of_members (nodup_keys_putEntry key result present keys) ?_ others
      intro member inside
      rcases mem_of_mem_putEntry inside with rfl | before
      · exact distinct_of_value resultIs
      · exact each member before
end

/-! ### Values read again -/

@[simp] theorem text_quoted (text : String) : reading.text (.quoted text) = .ok text := rfl

/-- A member under a new key joins those present. -/
theorem members_quoted {key : String} {value : Value} {present rest : List (String × Value)}
    {document : Document} (keys : ((present ++ (key, value) :: rest).map Prod.fst).Nodup)
    (read : reading.value document = .ok value) (entries : List (Document × Document)) :
    reading.members present ((.quoted key, document) :: entries) =
      reading.members (present ++ [(key, value)]) entries := by
  have isNew : findValue? key present = none := by
    rw [findValue?_eq_none_iff]
    simp only [List.map_append, List.map_cons, List.nodup_append] at keys
    intro inside
    exact keys.2.2 key inside key List.mem_cons_self rfl
  simp only [Reading.members, text_quoted, read, bind, Except.bind, putEntry_of_absent isNew]

mutual
theorem value_ofValue {value : Value} (distinct : value.Distinct) :
    reading.value (ofValue value) = .ok value := by
  cases value with
  | null | bool | number | string => rfl
  | list items =>
      have each := values_ofItems (Value.distinctItems_iff.mp distinct)
      simp only [ofValue, Reading.value, each]
      rfl
  | object members =>
      have each : reading.members [] (ofMembers members) = .ok members :=
        members_ofMembers distinct.1 (Value.distinctMembers_iff.mp distinct.2)
      simp only [ofValue, Reading.value, each]
      rfl

theorem values_ofItems {items : List Value} (each : ∀ item ∈ items, item.Distinct) :
    reading.values (ofItems items) = .ok items := by
  cases items with
  | nil => rfl
  | cons item rest =>
      obtain ⟨here, later⟩ := List.forall_mem_cons.mp each
      simp only [ofItems, values, value_ofValue here, values_ofItems later]
      rfl

theorem members_ofMembers {present members : List (String × Value)}
    (keys : ((present ++ members).map Prod.fst).Nodup)
    (each : ∀ member ∈ members, member.2.Distinct) :
    reading.members present (ofMembers members) = .ok (present ++ members) := by
  cases members with
  | nil => simp [ofMembers, Reading.members]
  | cons member rest =>
      obtain ⟨here, later⟩ := List.forall_mem_cons.mp each
      obtain ⟨key, value⟩ := member
      rw [ofMembers, members_quoted reading keys (value_ofValue here),
        members_ofMembers (by simpa using keys) later]
      simp
end

end Document.Reading
end Stanza
