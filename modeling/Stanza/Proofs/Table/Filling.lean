import Mathlib.Data.List.Induction
import Mathlib.Data.List.Nodup
import Mathlib.Data.Option.Basic
import Stanza.Table

set_option autoImplicit false

/-!
Tables filled from lists of entries. The keys stand in the order of their first occurrence
and each holds its last value. The same holds one level down for tables of tables, filled
from groups of entries; filling from a filled table is filling from the list it came from.
-/

namespace Stanza

universe u v

/-! ### First occurrences -/

theorem eraseDups_concat {α : Type u} [DecidableEq α] (items : List α) (item : α) :
    (items ++ [item]).eraseDups =
      if item ∈ items then items.eraseDups else items.eraseDups ++ [item] := by
  rw [List.eraseDups_append]
  by_cases present : item ∈ items
  · simp [present, List.removeAll]
  · simp [present, List.removeAll, List.eraseDups_cons]

theorem nodup_eraseDups {α : Type u} [DecidableEq α] (items : List α) :
    items.eraseDups.Nodup := by
  induction items using List.reverseRecOn with
  | nil => simp
  | append_singleton items item ih =>
      rw [eraseDups_concat]
      by_cases present : item ∈ items
      · rwa [if_pos present]
      · rw [if_neg present]
        have absent : item ∉ items.eraseDups := fun found => present (List.mem_eraseDups.mp found)
        refine List.nodup_append.mpr ⟨ih, List.nodup_singleton item, ?_⟩
        intro other found last isLast same
        cases List.mem_singleton.mp isLast
        exact absent (same ▸ found)

theorem eraseDups_of_nodup {α : Type u} [DecidableEq α] {items : List α}
    (distinct : items.Nodup) : items.eraseDups = items := by
  induction items using List.reverseRecOn with
  | nil => simp
  | append_singleton items item ih =>
      obtain ⟨front, _, apart⟩ := List.nodup_append.mp distinct
      have absent : item ∉ items := fun found => apart item found item (by simp) rfl
      rw [eraseDups_concat, if_neg absent, ih front]

theorem eraseDups_append_eraseDups {α : Type u} [DecidableEq α] (front back : List α) :
    (front ++ back.eraseDups).eraseDups = (front ++ back).eraseDups := by
  induction back using List.reverseRecOn with
  | nil => simp
  | append_singleton back item ih =>
      rw [eraseDups_concat, ← List.append_assoc, eraseDups_concat]
      by_cases inBack : item ∈ back
      · rw [if_pos inBack, ih, if_pos (List.mem_append_right front inBack)]
      · rw [if_neg inBack, ← List.append_assoc, eraseDups_concat, ih]
        simp [List.mem_eraseDups]

/-! ### Association lists -/

section Entries

variable {α : Type u}

theorem findValue?_eq_none_iff {key : String} {entries : List (String × α)} :
    findValue? key entries = none ↔ key ∉ entries.map Prod.fst := by
  induction entries with
  | nil => simp [findValue?]
  | cons entry rest ih =>
      by_cases here : entry.1 = key
      · simp [findValue?, here]
      · have other : key ≠ entry.1 := fun same => here same.symm
        simp only [findValue?, if_neg here, ih, List.map_cons, List.mem_cons, other, false_or]

theorem findValue?_append (key : String) (front back : List (String × α)) :
    findValue? key (front ++ back) = (findValue? key front).or (findValue? key back) := by
  induction front with
  | nil => rfl
  | cons entry rest ih =>
      by_cases here : entry.1 = key
      · simp [findValue?, here]
      · simp [findValue?, here, ih]

theorem findValue?_eq_some_iff {key : String} {value : α} {entries : List (String × α)}
    (distinct : (entries.map Prod.fst).Nodup) :
    findValue? key entries = some value ↔ (key, value) ∈ entries := by
  induction entries with
  | nil => simp [findValue?]
  | cons entry rest ih =>
      obtain ⟨headAbsent, tail⟩ := List.nodup_cons.mp distinct
      by_cases here : entry.1 = key
      · have absent : (key, value) ∉ rest := fun found =>
          headAbsent (List.mem_map.mpr ⟨(key, value), found, here.symm⟩)
        simp only [findValue?, if_pos here, Option.some.injEq, List.mem_cons, absent, or_false]
        constructor
        · rintro rfl
          rw [← here]
        · intro same
          rw [← same]
      · have apart : (key, value) ≠ entry := fun same => here (same ▸ rfl)
        simp only [findValue?, if_neg here, ih tail, List.mem_cons, apart, false_or]

/-- Under distinct keys it does not matter from which end an entry is looked for. -/
theorem findValue?_reverse {key : String} {entries : List (String × α)}
    (distinct : (entries.map Prod.fst).Nodup) :
    findValue? key entries.reverse = findValue? key entries := by
  have reversed : (entries.reverse.map Prod.fst).Nodup := by
    rw [List.map_reverse]
    exact List.nodup_reverse.mpr distinct
  apply Option.ext
  intro value
  rw [findValue?_eq_some_iff reversed, findValue?_eq_some_iff distinct, List.mem_reverse]

theorem findValue?_map {β : Type v} (change : α → β) (key : String)
    (entries : List (String × α)) :
    findValue? key (entries.map fun entry => (entry.1, change entry.2)) =
      (findValue? key entries).map change := by
  induction entries with
  | nil => rfl
  | cons entry rest ih =>
      by_cases here : entry.1 = key
      · simp [findValue?, here]
      · simp [findValue?, here, ih]

theorem putEntry_map {β : Type v} (change : α → β) (key : String) (value : α)
    (entries : List (String × α)) :
    (putEntry key value entries).map (fun entry => (entry.1, change entry.2)) =
      putEntry key (change value) (entries.map fun entry => (entry.1, change entry.2)) := by
  induction entries with
  | nil => rfl
  | cons entry rest ih =>
      by_cases here : entry.1 = key
      · simp [putEntry, here]
      · simp [putEntry, here, ih]

theorem mem_of_findValue? {key : String} {value : α} {entries : List (String × α)}
    (found : findValue? key entries = some value) : (key, value) ∈ entries := by
  induction entries with
  | nil => cases found
  | cons entry rest ih =>
      rw [findValue?] at found
      by_cases here : entry.1 = key
      · rw [if_pos here] at found
        cases found
        subst here
        exact List.mem_cons_self
      · rw [if_neg here] at found
        exact List.mem_cons_of_mem _ (ih found)

theorem putEntry_of_absent {key : String} {entries : List (String × α)}
    (absent : findValue? key entries = none) (value : α) :
    putEntry key value entries = entries ++ [(key, value)] := by
  induction entries with
  | nil => rfl
  | cons entry rest ih =>
      by_cases here : entry.1 = key
      · simp [findValue?, here] at absent
      · rw [findValue?, if_neg here] at absent
        rw [putEntry, if_neg here, ih absent, List.cons_append]

theorem mem_of_mem_putEntry {key : String} {value : α} {entries : List (String × α)}
    {entry : String × α} (member : entry ∈ putEntry key value entries) :
    entry = (key, value) ∨ entry ∈ entries := by
  induction entries with
  | nil => exact .inl (List.mem_singleton.mp member)
  | cons head rest ih =>
      rw [putEntry] at member
      by_cases same : head.1 = key
      · rw [if_pos same] at member
        rcases List.mem_cons.mp member with here | later
        · exact .inl here
        · exact .inr (List.mem_cons_of_mem _ later)
      · rw [if_neg same] at member
        rcases List.mem_cons.mp member with here | later
        · exact .inr (here ▸ List.mem_cons_self)
        · rcases ih later with own | other
          · exact .inl own
          · exact .inr (List.mem_cons_of_mem _ other)

end Entries

namespace Table

variable {α : Type u} {β : Type v}

/-! ### Lookup -/

@[simp] theorem keys_empty : (∅ : Table α).keys = [] := rfl

@[simp] theorem get?_empty (key : String) : (∅ : Table α).get? key = none := rfl

theorem get?_eq_none_iff {table : Table α} {key : String} :
    table.get? key = none ↔ key ∉ table.keys :=
  findValue?_eq_none_iff

theorem get?_eq_some_iff {table : Table α} {key : String} {value : α} :
    table.get? key = some value ↔ (key, value) ∈ table.entries :=
  findValue?_eq_some_iff table.distinct

theorem exists_get?_of_mem_keys {table : Table α} {key : String} (listed : key ∈ table.keys) :
    ∃ value, table.get? key = some value := by
  apply Option.ne_none_iff_exists'.mp
  intro missing
  exact get?_eq_none_iff.mp missing listed

@[simp] theorem get?_map (change : α → β) (table : Table α) (key : String) :
    (table.map change).get? key = (table.get? key).map change :=
  findValue?_map change key table.entries

theorem map_insert (change : α → β) (table : Table α) (key : String) (value : α) :
    (table.insert key value).map change = (table.map change).insert key (change value) :=
  Table.ext (putEntry_map change key value table.entries)

theorem map_some_entries (table : Table α) :
    table.entries.map some = table.keys.map fun key => (table.get? key).map (key, ·) := by
  unfold Table.keys
  rw [List.map_map]
  apply List.map_congr_left
  intro entry member
  rw [Function.comp_apply, get?_eq_some_iff.mpr member]
  rfl

/-- Tables with the same keys in the same order and the same values are the same. -/
theorem ext_of_get? {left right : Table α} (keys : left.keys = right.keys)
    (values : ∀ key, left.get? key = right.get? key) : left = right := by
  apply Table.ext
  apply List.map_injective_iff.mpr (Option.some_injective _)
  rw [map_some_entries, map_some_entries, keys]
  exact List.map_congr_left fun key _ => by rw [values key]

/-! ### Many entries -/

def insertAll (table : Table α) (entries : List (String × α)) : Table α :=
  entries.foldl (fun table entry => table.insert entry.1 entry.2) table

@[simp] theorem insertAll_nil (table : Table α) : table.insertAll [] = table := rfl

theorem insertAll_append (table : Table α) (front back : List (String × α)) :
    table.insertAll (front ++ back) = (table.insertAll front).insertAll back :=
  List.foldl_append

theorem insertAll_concat (table : Table α) (entries : List (String × α))
    (entry : String × α) :
    table.insertAll (entries ++ [entry]) = (table.insertAll entries).insert entry.1 entry.2 :=
  insertAll_append table entries [entry]

theorem eraseDups_keys (table : Table α) : table.keys.eraseDups = table.keys :=
  eraseDups_of_nodup table.distinct

theorem keys_insertAll (table : Table α) (entries : List (String × α)) :
    (table.insertAll entries).keys = (table.keys ++ entries.map Prod.fst).eraseDups := by
  induction entries using List.reverseRecOn with
  | nil => rw [insertAll_nil, List.map_nil, List.append_nil, eraseDups_keys]
  | append_singleton entries entry ih =>
      rw [insertAll_concat, keys_insert, ih, List.map_append, ← List.append_assoc]
      simp only [List.map_cons, List.map_nil, List.mem_eraseDups]
      rw [eraseDups_concat]

/-- The last entry at a key decides; without one the table keeps what it had. -/
theorem get?_insertAll (table : Table α) (entries : List (String × α)) (key : String) :
    (table.insertAll entries).get? key = (findValue? key entries.reverse).or (table.get? key) := by
  induction entries using List.reverseRecOn with
  | nil => rfl
  | append_singleton entries entry ih =>
      rw [insertAll_concat, get?_insert, ih, List.reverse_append]
      by_cases here : key = entry.1
      · simp [findValue?, here]
      · have other : ¬ entry.1 = key := fun same => here same.symm
        simp [findValue?, here, other]

theorem keys_insertAll_entries (table added : Table α) :
    (table.insertAll added.entries).keys =
      table.keys ++ added.keys.filter fun key => key ∉ table.keys := by
  have distinct : (added.keys.removeAll table.keys).Nodup :=
    added.distinct.sublist List.filter_sublist
  rw [keys_insertAll, List.eraseDups_append, eraseDups_keys]
  refine congrArg (table.keys ++ ·) ((eraseDups_of_nodup distinct).trans ?_)
  simp [List.removeAll]

theorem get?_insertAll_entries (table added : Table α) (key : String) :
    (table.insertAll added.entries).get? key = (added.get? key).or (table.get? key) := by
  rw [get?_insertAll, findValue?_reverse added.distinct]
  rfl

theorem map_insertAll (change : α → β) (table : Table α) (entries : List (String × α)) :
    (table.insertAll entries).map change =
      (table.map change).insertAll (entries.map fun entry => (entry.1, change entry.2)) := by
  induction entries using List.reverseRecOn with
  | nil => rfl
  | append_singleton entries entry ih =>
      rw [insertAll_concat, map_insert, ih, List.map_append, List.map_singleton,
        insertAll_concat]

theorem insertAll_entries (table : Table α) : (∅ : Table α).insertAll table.entries = table := by
  apply ext_of_get?
  · rw [keys_insertAll, keys_empty, List.nil_append]
    exact eraseDups_keys table
  · intro key
    rw [get?_insertAll_entries, get?_empty, Option.or_none]

theorem insertAll_entries_insertAll (table : Table α) (entries : List (String × α)) :
    table.insertAll ((∅ : Table α).insertAll entries).entries = table.insertAll entries := by
  apply ext_of_get?
  · have filled : ((∅ : Table α).insertAll entries).entries.map Prod.fst =
        (entries.map Prod.fst).eraseDups := keys_insertAll ∅ entries
    rw [keys_insertAll, keys_insertAll, filled, eraseDups_append_eraseDups]
  · intro key
    rw [get?_insertAll_entries, get?_insertAll, get?_empty, Option.or_none, get?_insertAll]

/-- Adding a table keeps the order of the present keys and changes their values; the further
entries follow as they are. -/
theorem entries_insertAll_entries (table added : Table α) :
    (table.insertAll added.entries).entries =
      (table.entries.map fun entry => (entry.1, (added.get? entry.1).getD entry.2)) ++
        added.entries.filter fun entry => entry.1 ∉ table.keys := by
  have further : (added.keys.filter fun key => key ∉ table.keys) =
      (added.entries.filter fun entry => entry.1 ∉ table.keys).map Prod.fst := List.filter_map
  apply List.map_injective_iff.mpr (Option.some_injective _)
  rw [map_some_entries, keys_insertAll_entries, further, List.map_append, List.map_append,
    Table.keys, List.map_map, List.map_map, List.map_map]
  congr 1
  · apply List.map_congr_left
    intro entry member
    rw [Function.comp_apply, Function.comp_apply, get?_insertAll_entries,
      get?_eq_some_iff.mpr member]
    cases added.get? entry.1 <;> rfl
  · apply List.map_congr_left
    intro entry member
    rw [Function.comp_apply, get?_insertAll_entries,
      get?_eq_some_iff.mpr (List.mem_of_mem_filter member)]
    rfl

/-! ### Groups of entries -/

/-- Adds the entries of a group to the table at its key, which is made when it is missing. -/
def insertGroup (groups : Table (Table α)) (group : String × List (String × α)) :
    Table (Table α) :=
  groups.insert group.1 (((groups.get? group.1).getD ∅).insertAll group.2)

def insertGroups (groups : Table (Table α)) (added : List (String × List (String × α))) :
    Table (Table α) :=
  added.foldl insertGroup groups

/-- The entries of all groups at a key, in order. -/
def grouped (key : String) (groups : List (String × List (String × α))) : List (String × α) :=
  (groups.filter fun group => group.1 = key).flatMap Prod.snd

/-- A table of tables as the groups that it holds. -/
def groups (table : Table (Table α)) : List (String × List (String × α)) :=
  table.entries.map fun entry => (entry.1, entry.2.entries)

theorem insertGroups_append (table : Table (Table α))
    (front back : List (String × List (String × α))) :
    table.insertGroups (front ++ back) = (table.insertGroups front).insertGroups back :=
  List.foldl_append

theorem insertGroups_concat (table : Table (Table α))
    (added : List (String × List (String × α))) (group : String × List (String × α)) :
    table.insertGroups (added ++ [group]) = (table.insertGroups added).insertGroup group :=
  insertGroups_append table added [group]

theorem grouped_append (key : String) (front back : List (String × List (String × α))) :
    grouped key (front ++ back) = grouped key front ++ grouped key back := by
  simp [grouped]

theorem grouped_of_not_mem {key : String} {added : List (String × List (String × α))}
    (absent : key ∉ added.map Prod.fst) : grouped key added = [] := by
  have nothing : (added.filter fun group => group.1 = key) = [] := by
    rw [List.filter_eq_nil_iff]
    intro group member same
    exact absent (List.mem_map.mpr ⟨group, member, of_decide_eq_true same⟩)
  rw [grouped, nothing]
  rfl

theorem grouped_of_nodup {key : String} {entries : List (String × α)}
    {added : List (String × List (String × α))} (distinct : (added.map Prod.fst).Nodup)
    (member : (key, entries) ∈ added) : grouped key added = entries := by
  obtain ⟨front, back, rfl⟩ := List.append_of_mem member
  rw [List.map_append, List.map_cons, List.nodup_middle, List.nodup_cons] at distinct
  have apart : key ∉ front.map Prod.fst ∧ key ∉ back.map Prod.fst := by
    simpa [not_or] using distinct.1
  have here : grouped key [(key, entries)] = entries := by simp [grouped]
  rw [← List.singleton_append, grouped_append, grouped_append, here,
    grouped_of_not_mem apart.1, grouped_of_not_mem apart.2, List.nil_append, List.append_nil]

/-- Under distinct group keys and distinct entry keys no pair of the two comes twice. -/
theorem nodup_pairs {added : List (String × List (String × α))}
    (distinct : (added.map Prod.fst).Nodup)
    (inner : ∀ group ∈ added, (group.2.map Prod.fst).Nodup) :
    (added.flatMap fun group => group.2.map fun entry => (group.1, entry.1)).Nodup := by
  rw [List.nodup_flatMap]
  constructor
  · intro group member
    apply List.Nodup.of_map Prod.snd
    rw [List.map_map]
    exact inner group member
  · apply List.Pairwise.imp _ (List.pairwise_map.mp distinct)
    intro left right apart pair inLeft inRight
    obtain ⟨_, _, rfl⟩ := List.mem_map.mp inLeft
    obtain ⟨_, _, same⟩ := List.mem_map.mp inRight
    exact apart (congrArg Prod.fst same).symm

theorem keys_insertGroups (table : Table (Table α))
    (added : List (String × List (String × α))) :
    (table.insertGroups added).keys = (table.keys ++ added.map Prod.fst).eraseDups := by
  induction added using List.reverseRecOn with
  | nil =>
      rw [List.map_nil, List.append_nil, eraseDups_keys]
      rfl
  | append_singleton added group ih =>
      rw [insertGroups_concat, insertGroup, keys_insert, ih, List.map_append,
        ← List.append_assoc]
      simp only [List.map_cons, List.map_nil, List.mem_eraseDups]
      rw [eraseDups_concat]

theorem get?_insertGroups (table : Table (Table α))
    (added : List (String × List (String × α))) (key : String) :
    (table.insertGroups added).get? key =
      if key ∈ table.keys ++ added.map Prod.fst then
        some (((table.get? key).getD ∅).insertAll (grouped key added))
      else none := by
  induction added using List.reverseRecOn with
  | nil =>
      by_cases present : key ∈ table.keys
      · obtain ⟨inner, found⟩ := exists_get?_of_mem_keys present
        simp [insertGroups, grouped, present, found]
      · simp [insertGroups, present, get?_eq_none_iff.mpr present]
  | append_singleton added group ih =>
      rw [insertGroups_concat, insertGroup, get?_insert, ih, grouped_append, insertAll_append]
      by_cases here : key = group.1
      · subst here
        have own : grouped group.1 [group] = group.2 := by simp [grouped]
        have listed : group.1 ∈ table.keys ++ (added ++ [group]).map Prod.fst := by simp
        rw [if_pos rfl, if_pos listed, own]
        by_cases before : group.1 ∈ table.keys ++ added.map Prod.fst
        · rw [ih, if_pos before]
          rfl
        · rw [ih, if_neg before]
          have absent : group.1 ∉ table.keys ∧ group.1 ∉ added.map Prod.fst := by
            simpa only [List.mem_append, not_or] using before
          rw [get?_eq_none_iff.mpr absent.1, grouped_of_not_mem absent.2]
          rfl
      · have other : grouped key [group] = [] := grouped_of_not_mem (by simpa using here)
        have unlisted : key ∈ table.keys ++ (added ++ [group]).map Prod.fst ↔
            key ∈ table.keys ++ added.map Prod.fst := by simp [here]
        rw [if_neg here, other, insertAll_nil]
        simp only [unlisted]

theorem map_insertGroups (change : α → β) (table : Table (Table α))
    (added : List (String × List (String × α))) :
    (table.insertGroups added).map (Table.map change) =
      (table.map (Table.map change)).insertGroups
        (added.map fun group => (group.1, group.2.map fun entry => (entry.1, change entry.2))) := by
  induction added using List.reverseRecOn with
  | nil => rfl
  | append_singleton added group ih =>
      have inner : (((table.insertGroups added).get? group.1).getD ∅).map change =
          ((((table.insertGroups added).map (Table.map change)).get? group.1).getD ∅) := by
        rw [get?_map]
        cases (table.insertGroups added).get? group.1 <;> rfl
      rw [insertGroups_concat, insertGroup, map_insert, map_insertAll, inner, ih,
        List.map_append, List.map_singleton, insertGroups_concat, insertGroup]

/-- Adding a table of tables is adding the groups that it was filled from. -/
theorem insertGroups_groups_insertGroups (table : Table (Table α))
    (added : List (String × List (String × α))) :
    table.insertGroups ((∅ : Table (Table α)).insertGroups added).groups =
      table.insertGroups added := by
  have names : ((∅ : Table (Table α)).insertGroups added).groups.map Prod.fst =
      (added.map Prod.fst).eraseDups := by
    have same : ((∅ : Table (Table α)).insertGroups added).groups.map Prod.fst =
        ((∅ : Table (Table α)).insertGroups added).keys := by
      unfold groups Table.keys
      rw [List.map_map]
      rfl
    rw [same, keys_insertGroups]
    rfl
  apply ext_of_get?
  · rw [keys_insertGroups, keys_insertGroups, names, eraseDups_append_eraseDups]
  · intro key
    rw [get?_insertGroups, get?_insertGroups, names]
    by_cases listed : key ∈ added.map Prod.fst
    · have inside := get?_insertGroups ∅ added key
      rw [if_pos (by simpa using listed), get?_empty, Option.getD_none] at inside
      have member : (key, ((∅ : Table α).insertAll (grouped key added)).entries) ∈
          ((∅ : Table (Table α)).insertGroups added).groups :=
        List.mem_map.mpr ⟨_, get?_eq_some_iff.mp inside, rfl⟩
      have distinct := names ▸ nodup_eraseDups (added.map Prod.fst)
      rw [grouped_of_nodup distinct member, insertAll_entries_insertAll,
        if_pos (List.mem_append_right _ (List.mem_eraseDups.mpr listed)),
        if_pos (List.mem_append_right _ listed)]
    · have unlisted : key ∉ (added.map Prod.fst).eraseDups := mt List.mem_eraseDups.mp listed
      rw [grouped_of_not_mem listed, grouped_of_not_mem (names ▸ unlisted)]
      simp only [List.mem_append, List.mem_eraseDups]

end Table
end Stanza
