set_option autoImplicit false

/-!
Tables keep their keys in the order of first insertion: inserting at a present key
replaces its value in place. No key occurs twice, and the type says so.
-/

namespace Stanza

universe u v

/-- Puts a value at a key of an association list, in place when the key is present. -/
def putEntry {α : Type u} (key : String) (value : α) : List (String × α) → List (String × α)
  | [] => [(key, value)]
  | entry :: rest =>
      if entry.1 = key then (key, value) :: rest else entry :: putEntry key value rest

def findValue? {α : Type u} (key : String) : List (String × α) → Option α
  | [] => none
  | entry :: rest => if entry.1 = key then some entry.2 else findValue? key rest

theorem keys_putEntry {α : Type u} (key : String) (value : α) (entries : List (String × α)) :
    (putEntry key value entries).map Prod.fst =
      if key ∈ entries.map Prod.fst then entries.map Prod.fst
      else entries.map Prod.fst ++ [key] := by
  induction entries with
  | nil => simp [putEntry]
  | cons entry rest ih =>
      by_cases same : entry.1 = key
      · simp [putEntry, same]
      · have other : key ≠ entry.1 := fun equal => same equal.symm
        by_cases present : key ∈ rest.map Prod.fst
        · rw [if_pos present] at ih
          simp [putEntry, same, other, ih, present]
        · rw [if_neg present] at ih
          simp [putEntry, same, other, ih, present]

theorem nodup_keys_putEntry {α : Type u} (key : String) (value : α)
    (entries : List (String × α)) (distinct : (entries.map Prod.fst).Nodup) :
    ((putEntry key value entries).map Prod.fst).Nodup := by
  rw [keys_putEntry]
  by_cases present : key ∈ entries.map Prod.fst
  · rwa [if_pos present]
  · rw [if_neg present, List.nodup_append]
    refine ⟨distinct, by simp, ?_⟩
    intro left leftMem right rightMem equal
    have rightIs : right = key := by simpa using rightMem
    exact present (rightIs ▸ equal ▸ leftMem)

theorem findValue?_putEntry {α : Type u} (key other : String) (value : α)
    (entries : List (String × α)) :
    findValue? other (putEntry key value entries) =
      if other = key then some value else findValue? other entries := by
  induction entries with
  | nil => simp [putEntry, findValue?, eq_comm]
  | cons entry rest ih =>
      by_cases at_head : entry.1 = key
      · by_cases same : other = key
        · simp [putEntry, findValue?, at_head, same]
        · have : ¬ key = other := fun equal => same equal.symm
          simp [putEntry, findValue?, at_head, same, this]
      · by_cases same : other = key
        · subst same
          simp [putEntry, findValue?, at_head, ih]
        · simp [putEntry, findValue?, at_head, ih, same]

/-- Values under distinct keys, in the order in which the keys came. -/
structure Table (α : Type u) where
  entries : List (String × α)
  distinct : (entries.map Prod.fst).Nodup

namespace Table

variable {α : Type u} {β : Type v}

def empty : Table α := ⟨[], by simp⟩

instance : EmptyCollection (Table α) := ⟨empty⟩

instance : Inhabited (Table α) := ⟨empty⟩

@[ext] theorem ext {left right : Table α} (same : left.entries = right.entries) :
    left = right := by
  cases left
  cases right
  cases same
  rfl

def insert (table : Table α) (key : String) (value : α) : Table α :=
  ⟨putEntry key value table.entries, nodup_keys_putEntry key value _ table.distinct⟩

/-- The table of a list of entries, of which a later one replaces an earlier one. -/
def ofList (entries : List (String × α)) : Table α :=
  entries.foldl (fun table entry => table.insert entry.1 entry.2) empty

def get? (table : Table α) (key : String) : Option α := findValue? key table.entries

def contains (table : Table α) (key : String) : Bool := (table.get? key).isSome

def keys (table : Table α) : List String := table.entries.map Prod.fst

def values (table : Table α) : List α := table.entries.map Prod.snd

def size (table : Table α) : Nat := table.entries.length

/-- Changes the values and keeps the keys. -/
def map (change : α → β) (table : Table α) : Table β :=
  ⟨table.entries.map fun entry => (entry.1, change entry.2), by
    have same : (table.entries.map fun entry => (entry.1, change entry.2)).map Prod.fst =
        table.entries.map Prod.fst := by
      rw [List.map_map]
      exact List.map_congr_left fun _ _ => rfl
    rw [same]
    exact table.distinct⟩

@[simp] theorem entries_insert (table : Table α) (key : String) (value : α) :
    (table.insert key value).entries = putEntry key value table.entries := rfl

@[simp] theorem get?_insert (table : Table α) (key other : String) (value : α) :
    (table.insert key value).get? other = if other = key then some value else table.get? other :=
  findValue?_putEntry key other value table.entries

@[simp] theorem keys_insert (table : Table α) (key : String) (value : α) :
    (table.insert key value).keys =
      if key ∈ table.keys then table.keys else table.keys ++ [key] :=
  keys_putEntry key value table.entries

end Table
end Stanza
