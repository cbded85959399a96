import Mathlib.Data.List.Infix
import Mathlib.Logic.Function.Basic
import Stanza.Files.Tree

set_option autoImplicit false

/-!
A file tree as a function from positions to what lies there. Changing a file, or putting
an empty directory at a free name, changes this function at one position only.
-/

namespace Stanza.Files

/-- What lies at a position, without what a directory holds. -/
inductive State where
  | absent
  | directory
  | file (contents : ByteArray)
  | link (target : String)

/-- Two files are compared by their bytes. -/
instance : DecidableEq State
  | .absent, .absent => isTrue rfl
  | .directory, .directory => isTrue rfl
  | .file left, .file right =>
      decidable_of_iff (left.data = right.data)
        ⟨fun same => congrArg State.file (ByteArray.ext same), fun same => by cases same; rfl⟩
  | .link left, .link right =>
      decidable_of_iff (left = right) ⟨congrArg State.link, State.link.inj⟩
  | .absent, .directory | .absent, .file _ | .absent, .link _
  | .directory, .absent | .directory, .file _ | .directory, .link _
  | .file _, .absent | .file _, .directory | .file _, .link _
  | .link _, .absent | .link _, .directory | .link _, .file _ => isFalse State.noConfusion

def Entry.state : Entry → State
  | .file contents => .file contents
  | .directory _ => .directory
  | .link target => .link target

def entryState : Option Entry → State
  | some entry => entry.state
  | none => .absent

def stateAt (tree : FileTree) (position : Position) : State := entryState (tree.at? position)

def stateBelow (found : Option Entry) (position : Position) : State :=
  entryState (found.bind fun entry => entry.at? position)

/-! ### Positions below one another -/

theorem at?_append (entry : Entry) (front back : Position) :
    entry.at? (front ++ back) = (entry.at? front).bind fun below => below.at? back := by
  induction front generalizing entry with
  | nil => rfl
  | cons name rest ih =>
      cases entry with
      | file contents => rfl
      | link target => rfl
      | directory entries =>
          rw [List.cons_append, Entry.at?, Entry.at?]
          cases findValue? name entries with
          | none => rfl
          | some child => exact ih child

theorem stateAt_append (tree : FileTree) (front back : Position) :
    stateAt tree (front ++ back) = stateBelow (tree.at? front) back := by
  unfold stateAt stateBelow
  rw [at?_append]

theorem stateAt_directory_cons (entries : List (String × Entry)) (name : String)
    (rest : Position) :
    stateAt (.directory entries) (name :: rest) = stateBelow (findValue? name entries) rest := by
  unfold stateAt stateBelow
  rw [Entry.at?]
  cases findValue? name entries <;> rfl

/-- Only a directory has anything below it. -/
theorem stateAt_below {tree : FileTree} {front : Position}
    (notDirectory : stateAt tree front ≠ .directory) (name : String) (rest : Position) :
    stateAt tree (front ++ name :: rest) = .absent := by
  rw [stateAt_append]
  unfold stateAt at notDirectory
  cases found : tree.at? front with
  | none => rfl
  | some entry =>
      cases entry with
      | file contents => rfl
      | link target => rfl
      | directory entries =>
          rw [found] at notDirectory
          exact absurd rfl notDirectory

theorem stateAt_front {tree : FileTree} (front : Position) (name : String) (rest : Position)
    (inside : stateAt tree (front ++ name :: rest) ≠ .absent) :
    stateAt tree front = .directory := by
  by_contra notDirectory
  exact inside (stateAt_below notDirectory name rest)

theorem at?_of_stateAt_directory {tree : FileTree} {position : Position}
    (isDirectory : stateAt tree position = .directory) :
    ∃ entries, tree.at? position = some (.directory entries) := by
  unfold stateAt at isDirectory
  cases found : tree.at? position with
  | none =>
      rw [found] at isDirectory
      cases isDirectory
  | some entry =>
      rw [found] at isDirectory
      cases entry with
      | file contents => cases isDirectory
      | link target => cases isDirectory
      | directory entries => exact ⟨entries, rfl⟩

/-! ### Changing one entry -/

theorem findValue?_removeEntry (name other : String) (entries : List (String × Entry)) :
    findValue? other (Entry.removeEntry name entries) =
      if other = name then none else findValue? other entries := by
  induction entries with
  | nil => simp [Entry.removeEntry, findValue?]
  | cons entry rest ih =>
      unfold Entry.removeEntry at ih ⊢
      by_cases removed : entry.1 = name
      · rw [List.filter_cons_of_neg (by simp [removed]), ih]
        by_cases same : other = name
        · rw [if_pos same, if_pos same]
        · have apart : ¬ entry.1 = other := fun equal => same (equal.symm.trans removed)
          rw [if_neg same, if_neg same, findValue?, if_neg apart]
      · rw [List.filter_cons_of_pos (by simp [removed]), findValue?, findValue?, ih]
        by_cases here : entry.1 = other
        · have apart : ¬ other = name := fun equal => removed (here.trans equal)
          rw [if_pos here, if_pos here, if_neg apart]
        · rw [if_neg here, if_neg here]

/-- Nothing lies below an entry, or there is none. -/
def IsLeaf (found : Option Entry) : Prop :=
  ∀ name rest, stateBelow found (name :: rest) = .absent

theorem isLeaf_at? {tree : FileTree} {position : Position}
    (notDirectory : stateAt tree position ≠ .directory) : IsLeaf (tree.at? position) := by
  intro name rest
  rw [← stateAt_append]
  exact stateAt_below notDirectory name rest

theorem isLeaf_none : IsLeaf none := fun _ _ => rfl

theorem isLeaf_file (contents : ByteArray) : IsLeaf (some (.file contents)) := fun _ _ => rfl

theorem isLeaf_emptyDirectory : IsLeaf (some (.directory [])) := fun _ _ => rfl

theorem set_last (change : Option Entry) (name : String) (entries : List (String × Entry)) :
    ∃ changed, Entry.set change [name] (.directory entries) = .directory changed ∧
      ∀ other, findValue? other changed =
        if other = name then change else findValue? other entries := by
  cases change with
  | none => exact ⟨_, rfl, fun other => findValue?_removeEntry name other entries⟩
  | some new => exact ⟨_, rfl, fun other => findValue?_putEntry name other new entries⟩

theorem set_onTheWay (change : Option Entry) (name : String) {rest : Position} {child : Entry}
    {entries : List (String × Entry)} (further : rest ≠ [])
    (found : findValue? name entries = some child) :
    ∃ changed, Entry.set change (name :: rest) (.directory entries) = .directory changed ∧
      ∀ other, findValue? other changed =
        if other = name then some (child.set change rest) else findValue? other entries := by
  refine ⟨putEntry name (child.set change rest) entries, ?_, ?_⟩
  · cases rest with
    | nil => exact absurd rfl further
    | cons second others =>
        rw [Entry.set]
        · rw [found]
        · simp
  · intro other
    exact findValue?_putEntry name other _ entries

/-- A change below one name is a change at one position if it is one below that name. -/
theorem stateAt_changed {name : String} {new : Option Entry}
    {entries changed : List (String × Entry)}
    (lookup : ∀ other, findValue? other changed =
      if other = name then new else findValue? other entries) {back : Position} {found : State}
    (below : ∀ rest, stateBelow new rest =
      if rest = back then found else stateAt (.directory entries) (name :: rest)) :
    stateAt (.directory changed) =
      Function.update (stateAt (.directory entries)) (name :: back) found := by
  funext position
  cases position with
  | nil =>
      rw [Function.update_of_ne (List.cons_ne_nil _ _).symm]
      rfl
  | cons other rest =>
      rw [stateAt_directory_cons, lookup]
      by_cases same : other = name
      · subst same
        rw [if_pos rfl, below]
        by_cases target : rest = back
        · rw [if_pos target, target, Function.update_self]
        · rw [if_neg target, Function.update_of_ne (by simpa using target)]
      · rw [if_neg same, Function.update_of_ne (by simp [same]), stateAt_directory_cons]

/--
When nothing lies below the old entry nor below the new one, the change of an entry is a
change of the state at its position.
-/
theorem stateAt_set (tree : FileTree) (front : Position) (name : String) (change : Option Entry)
    (inDirectory : stateAt tree front = .directory) (oldLeaf : IsLeaf (tree.at? (front ++ [name])))
    (newLeaf : IsLeaf change) :
    stateAt (tree.set change (front ++ [name])) =
      Function.update (stateAt tree) (front ++ [name]) (entryState change) := by
  induction front generalizing tree with
  | nil =>
      obtain ⟨entries, found⟩ := at?_of_stateAt_directory inDirectory
      cases (Option.some.inj found : tree = _)
      obtain ⟨changed, setTo, lookup⟩ := set_last change name entries
      rw [List.nil_append, setTo]
      apply stateAt_changed lookup
      intro rest
      cases rest with
      | nil => cases change <;> rfl
      | cons below rest =>
          have old := oldLeaf below rest
          rw [← stateAt_append] at old
          rw [if_neg (List.cons_ne_nil _ _)]
          exact (newLeaf below rest).trans old.symm
  | cons first front ih =>
      obtain ⟨entries, rfl⟩ : ∃ entries, tree = .directory entries := by
        have root : stateAt tree [] = .directory := by
          apply stateAt_front [] first front
          rw [List.nil_append, inDirectory]
          simp
        obtain ⟨entries, found⟩ := at?_of_stateAt_directory root
        exact ⟨entries, Option.some.inj found⟩
      cases found : findValue? first entries with
      | none =>
          rw [stateAt_directory_cons, found] at inDirectory
          cases inDirectory
      | some child =>
          have childDirectory : stateAt child front = .directory := by
            rw [stateAt_directory_cons, found] at inDirectory
            exact inDirectory
          have childLeaf : IsLeaf (child.at? (front ++ [name])) := by
            rw [List.cons_append, Entry.at?, found] at oldLeaf
            exact oldLeaf
          obtain ⟨changed, setTo, lookup⟩ := set_onTheWay change first
            (by simp : front ++ [name] ≠ []) found
          rw [List.cons_append, setTo]
          apply stateAt_changed lookup
          intro rest
          have below : stateBelow (some (child.set change (front ++ [name]))) rest =
              stateAt (child.set change (front ++ [name])) rest := rfl
          rw [below, ih child childDirectory childLeaf, stateAt_directory_cons, found,
            Function.update_apply]
          rfl

/-! ### The entries elsewhere -/

theorem at?_directory_cons (entries : List (String × Entry)) (name : String) (rest : Position) :
    (Entry.directory entries).at? (name :: rest) =
      (findValue? name entries).bind fun child => child.at? rest := by
  rw [Entry.at?]
  cases findValue? name entries <;> rfl

theorem set_missing (change : Option Entry) {name : String} {rest : Position}
    {entries : List (String × Entry)} (further : rest ≠ [])
    (missing : findValue? name entries = none) :
    Entry.set change (name :: rest) (.directory entries) = .directory entries := by
  cases rest with
  | nil => exact absurd rfl further
  | cons second others =>
      rw [Entry.set]
      · rw [missing]
      · simp

theorem set_leaf (change : Option Entry) (position : Position) {entry : Entry}
    (leaf : ∀ entries, entry ≠ .directory entries) : entry.set change position = entry := by
  cases entry with
  | directory entries => exact absurd rfl (leaf entries)
  | file contents => cases position with
    | nil => rfl
    | cons name rest => cases rest <;> rfl
  | link target => cases position with
    | nil => rfl
    | cons name rest => cases rest <;> rfl

/-- Whole entries stay as they are where neither position lies below the other. -/
theorem at?_set_of_apart (change : Option Entry) (tree : Entry) {position other : Position}
    (notBelow : ¬ position <+: other) (notAbove : ¬ other <+: position) :
    (tree.set change position).at? other = tree.at? other := by
  induction position generalizing tree other with
  | nil => exact absurd List.nil_prefix notBelow
  | cons name rest ih =>
      cases other with
      | nil => exact absurd List.nil_prefix notAbove
      | cons first others =>
          cases tree with
          | file contents => rw [set_leaf change _ (by simp)]
          | link target => rw [set_leaf change _ (by simp)]
          | directory entries =>
              by_cases last : rest = []
              · subst last
                have different : first ≠ name := by
                  rintro rfl
                  exact notBelow ⟨others, rfl⟩
                obtain ⟨changed, setTo, lookup⟩ := set_last change name entries
                rw [setTo, at?_directory_cons, at?_directory_cons, lookup, if_neg different]
              · cases found : findValue? name entries with
                | none => rw [set_missing change last found]
                | some child =>
                    obtain ⟨changed, setTo, lookup⟩ := set_onTheWay change name last found
                    rw [setTo, at?_directory_cons, at?_directory_cons, lookup]
                    by_cases same : first = name
                    · subst same
                      rw [if_pos rfl, found]
                      rw [List.cons_prefix_cons] at notBelow notAbove
                      exact ih child (fun below => notBelow ⟨rfl, below⟩)
                        fun above => notAbove ⟨rfl, above⟩
                    · rw [if_neg same]

/-- A change below an entry is a change of that entry. -/
theorem at?_set_below (change : Option Entry) {tree entry : Entry} {front back : Position}
    (found : tree.at? front = some entry) (further : back ≠ []) :
    (tree.set change (front ++ back)).at? front = some (entry.set change back) := by
  induction front generalizing tree with
  | nil =>
      cases found
      rfl
  | cons name rest ih =>
      cases tree with
      | file contents => cases found
      | link target => cases found
      | directory entries =>
          rw [at?_directory_cons] at found
          obtain ⟨child, here, below⟩ := Option.bind_eq_some_iff.mp found
          obtain ⟨changed, setTo, lookup⟩ := set_onTheWay change name
            (by simp [further] : rest ++ back ≠ []) here
          rw [List.cons_append, setTo, at?_directory_cons, lookup, if_pos rfl]
          exact ih below

end Stanza.Files
