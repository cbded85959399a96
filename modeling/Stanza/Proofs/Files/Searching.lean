import Stanza.Files.Documents
import Stanza.Proofs.Files.Directories
import Stanza.Proofs.Outcome
import Stanza.Proofs.Table.Filling

set_option autoImplicit false

/-!
Searching a tree without links for documents. What is found depends on no link and on no
empty directory, and every document that is found lies below the place of the search.
-/

namespace Stanza.Files

/-- An entry of regular files and directories, under names that a path can end in. -/
inductive Regular : Entry → Prop where
  | file (contents : ByteArray) : Regular (.file contents)
  | directory {entries : List (String × Entry)} (named : ∀ item ∈ entries, IsName item.1)
      (below : ∀ item ∈ entries, Regular item.2) : Regular (.directory entries)

theorem Regular.empty : Regular (.directory []) := .directory (by simp) (by simp)

theorem Regular.cons {name : String} {entry : Entry} {entries : List (String × Entry)}
    (named : IsName name) (first : Regular entry) (others : Regular (.directory entries)) :
    Regular (.directory ((name, entry) :: entries)) := by
  cases others with
  | directory othersNamed each =>
      exact .directory (List.forall_mem_cons.mpr ⟨named, othersNamed⟩)
        (List.forall_mem_cons.mpr ⟨first, each⟩)

theorem Regular.at? {entry below : Entry} (regular : Regular entry) {position : Position}
    (found : entry.at? position = some below) : Regular below := by
  induction position generalizing entry with
  | nil =>
      cases found
      exact regular
  | cons name rest ih =>
      cases regular with
      | file contents => cases found
      | directory named each =>
          rw [at?_directory_cons] at found
          obtain ⟨child, here, later⟩ := Option.bind_eq_some_iff.mp found
          exact ih (each _ (mem_of_findValue? here)) later

theorem Regular.plain {tree : FileTree} (regular : Regular tree)
    (root : tree.isDirectory = true) : Plain tree := by
  refine ⟨?_, ?_⟩
  · cases regular with
    | file contents => cases root
    | directory named each => rfl
  · intro position target link
    unfold stateAt at link
    cases found : tree.at? position with
    | none =>
        rw [found] at link
        cases link
    | some entry =>
        rw [found] at link
        cases regular.at? found <;> cases link

/-! ### In order of the names -/

theorem filter_split {α : Type} {test : α → Bool} {low high : List α}
    (below : ∀ item ∈ low, test item = false) (above : ∀ item ∈ high, test item = true) :
    (low ++ high).filter test = high ∧ (low ++ high).filter (fun item => !test item) = low := by
  constructor
  · rw [List.filter_append, List.filter_eq_nil_iff.mpr (by simpa using below),
      List.filter_eq_self.mpr above, List.nil_append]
  · rw [List.filter_append, List.filter_eq_self.mpr (by simpa using below),
      List.filter_eq_nil_iff.mpr (by simpa using above), List.append_nil]

/-- A last item comes somewhere among the others, which keep their order. -/
theorem mergeSort_concat {α : Type} {le : α → α → Bool}
    (trans : ∀ a b c, le a b = true → le b c = true → le a c = true)
    (total : ∀ a b, (le a b || le b a) = true) (items : List α) (last : α) :
    ∃ front back, (items ++ [last]).mergeSort le = front ++ last :: back ∧
      items.mergeSort le = front ++ back := by
  induction items with
  | nil => exact ⟨[], [], by simp⟩
  | cons item rest ih =>
      obtain ⟨front, back, longer, shorter⟩ := ih
      have split (others : List α) : ∃ low high,
          (item :: others).mergeSort le = low ++ item :: high ∧
            (others.mergeSort le).filter (le item) = high ∧
            (others.mergeSort le).filter (fun other => !le item other) = low := by
        obtain ⟨low, high, whole, parts, below⟩ := List.mergeSort_cons trans total item others
        have sorted := List.pairwise_mergeSort trans total (item :: others)
        rw [whole] at sorted
        have above := (List.pairwise_cons.mp (List.pairwise_append.mp sorted).2.1).1
        rw [parts]
        exact ⟨low, high, whole, filter_split (by simpa using below) above⟩
      obtain ⟨low, high, whole, highIs, lowIs⟩ := split (rest ++ [last])
      obtain ⟨low', high', whole', highIs', lowIs'⟩ := split rest
      rw [longer, List.filter_append] at highIs lowIs
      rw [shorter, List.filter_append] at highIs' lowIs'
      rw [List.cons_append, whole, whole', ← highIs, ← lowIs, ← highIs', ← lowIs']
      by_cases after : le item last = true
      · refine ⟨front.filter (fun other => !le item other) ++ back.filter (fun other =>
          !le item other) ++ item :: front.filter (le item), back.filter (le item), ?_, ?_⟩
        · simp [after]
        · simp
      · refine ⟨front.filter (fun other => !le item other), back.filter (fun other =>
          !le item other) ++ item :: (front.filter (le item) ++ back.filter (le item)), ?_, ?_⟩
        · simp [after]
        · simp

theorem nameLe_trans {α : Type} (a b c : String × α) (first : decide (a.1 ≤ b.1) = true)
    (second : decide (b.1 ≤ c.1) = true) : decide (a.1 ≤ c.1) = true := by
  simp only [decide_eq_true_eq] at first second ⊢
  exact String.le_trans first second

theorem nameLe_total {α : Type} (a b : String × α) :
    (decide (a.1 ≤ b.1) || decide (b.1 ≤ a.1)) = true := by
  simpa using String.le_total a.1 b.1

theorem sortByName_concat {α : Type} (entries : List (String × α)) (last : String × α) :
    ∃ front back, Entry.sortByName (entries ++ [last]) = front ++ last :: back ∧
      Entry.sortByName entries = front ++ back :=
  mergeSort_concat nameLe_trans nameLe_total entries last

theorem mem_sortByName {α : Type} {entries : List (String × α)} {entry : String × α} :
    entry ∈ Entry.sortByName entries ↔ entry ∈ entries := List.mem_mergeSort

/-- A name under which nothing is found can be left out. -/
theorem collect_concat_nothing (found : List (String × Found)) (name : String) :
    collect (found ++ [(name, .ok [])]) = collect found := by
  obtain ⟨front, back, longer, shorter⟩ := sortByName_concat found (name, .ok [])
  unfold collect
  rw [longer, shorter, List.mapM_append, List.mapM_append, List.mapM_cons]
  cases front.mapM Prod.snd with
  | error place => rfl
  | ok groups =>
      cases back.mapM Prod.snd with
      | error place => rfl
      | ok others => simp [bind, Except.bind, pure, Except.pure]

theorem exists_of_mem_collect {found : List (String × Found)} {files : List String}
    (done : collect found = .ok files) {file : String} (member : file ∈ files) :
    ∃ name group, (name, .ok group) ∈ found ∧ file ∈ group := by
  obtain ⟨groups, all, same⟩ := bind_eq_ok_iff.mp done
  cases same
  obtain ⟨group, inGroups, inGroup⟩ := List.mem_flatten.mp member
  have pairs := (mapM_eq_ok_iff _ _ _).mp all
  obtain ⟨⟨name, result⟩, inFound, isGroup⟩ := exists_left_of_mem pairs inGroups
  cases (isGroup : result = _)
  exact ⟨name, group, mem_sortByName.mp inFound, inGroup⟩

/-! ### Searching -/

variable {link other : LinkSearch} {visited seen : List Position}

theorem searchEntries_eq_map (link : LinkSearch) (visited : List Position) (path : String)
    (position : Position) (entries : List (String × Entry)) :
    searchEntries link visited path position entries = entries.map fun item => (item.1,
      searchEntry link visited (join path item.1) item.1 (position ++ [item.1]) item.2) := by
  induction entries with
  | nil => rfl
  | cons item rest ih => rw [searchEntries, ih, List.map_cons]

/-- Without links it does not matter where links lead. -/
theorem searchEntry_regular {entry : Entry} (regular : Regular entry) (path name : String)
    (position place : Position) :
    searchEntry link visited path name position entry =
      searchEntry other seen path name place entry := by
  induction regular generalizing path name position place visited seen with
  | file contents => rfl
  | directory named each ih =>
      rw [searchEntry, searchEntry, searchEntries_eq_map, searchEntries_eq_map]
      apply congrArg collect
      apply List.map_congr_left
      intro item member
      rw [ih item member]

/-- What is found lies below the path of the search. -/
theorem mem_searchEntry {entry : Entry} (regular : Regular entry) {path name : String}
    {position : Position} {files : List String}
    (done : searchEntry link visited path name position entry = .ok files) {file : String}
    (member : file ∈ files) :
    ∃ below : List String, (∀ part ∈ below, IsName part) ∧ file = below.foldl join path := by
  induction regular generalizing path name position visited files with
  | file contents =>
      cases done
      refine ⟨[], by simp, ?_⟩
      by_cases document : isDocumentName name = true
      · simpa [document] using member
      · simp [document] at member
  | directory named each ih =>
      rw [searchEntry, searchEntries_eq_map] at done
      obtain ⟨part, group, inFound, inGroup⟩ := exists_of_mem_collect done member
      obtain ⟨item, inEntries, same⟩ := List.mem_map.mp inFound
      obtain ⟨rfl, searched⟩ := Prod.mk.inj same
      obtain ⟨below, parts, rfl⟩ := ih item inEntries searched inGroup
      refine ⟨item.1 :: below, ?_, rfl⟩
      intro part member
      rcases List.mem_cons.mp member with rfl | later
      · exact named item inEntries
      · exact parts part later

theorem searchEntries_putEntry_of_found {path name : String} {position : Position}
    {entries : List (String × Entry)} {before after : Entry}
    (found : findValue? name entries = some before)
    (same : searchEntry link visited (join path name) name (position ++ [name]) after =
      searchEntry link visited (join path name) name (position ++ [name]) before) :
    searchEntries link visited path position (putEntry name after entries) =
      searchEntries link visited path position entries := by
  induction entries with
  | nil => cases found
  | cons item rest ih =>
      rw [findValue?] at found
      rw [putEntry]
      by_cases here : item.1 = name
      · rw [if_pos here] at found ⊢
        cases found
        subst here
        rw [searchEntries, searchEntries, same]
      · rw [if_neg here] at found ⊢
        rw [searchEntries, searchEntries, ih found]

/-- An empty directory that comes at a free position holds no documents. -/
theorem searchEntry_set_directory {entry : Entry} {below : Position}
    (free : entry.at? below = none) (path name : String) (position : Position) :
    searchEntry link visited path name position (entry.set (some (.directory [])) below) =
      searchEntry link visited path name position entry := by
  induction below generalizing entry path name position visited with
  | nil => cases free
  | cons first rest ih =>
      cases entry with
      | file contents => rw [set_leaf _ _ (by simp)]
      | link target => rw [set_leaf _ _ (by simp)]
      | directory entries =>
          rw [at?_directory_cons] at free
          -- At the last step the directory comes after all entries and adds nothing to what
          -- is collected; before it, what is found in the child stays the same.
          by_cases last : rest = []
          · subst last
            have absent : findValue? first entries = none := by
              cases found : findValue? first entries with
              | none => rfl
              | some child =>
                  rw [found] at free
                  cases free
            have isSet : Entry.set (some (.directory [])) [first] (.directory entries) =
                .directory (entries ++ [(first, .directory [])]) := by
              rw [Entry.set, putEntry_of_absent absent]
            have nothing : searchEntry link (position :: visited) (join path first) first
                (position ++ [first]) (.directory []) = .ok [] := by
              rw [searchEntry, searchEntries, collect]
              simp [Entry.sortByName, bind, Except.bind, pure, Except.pure]
            rw [isSet, searchEntry, searchEntry, searchEntries_eq_map, searchEntries_eq_map,
              List.map_append, List.map_singleton, nothing, collect_concat_nothing]
          · cases found : findValue? first entries with
            | none => rw [set_missing _ last found]
            | some child =>
                rw [found] at free
                have isSet : Entry.set (some (.directory [])) (first :: rest)
                    (.directory entries) = .directory
                      (putEntry first (child.set (some (.directory [])) rest) entries) := by
                  cases rest with
                  | nil => exact absurd rfl last
                  | cons second others =>
                      rw [Entry.set]
                      · rw [found]
                      · simp
                rw [isSet, searchEntry, searchEntry,
                  searchEntries_putEntry_of_found found (ih free _ _ _)]

/-! ### Directories that are made -/

/-- Two files with the same contents, or two directories with the same documents. -/
structure Alike (before after : Entry) : Prop where
  state : after.state = before.state
  searched : ∀ link visited path name position,
    searchEntry link visited path name position after =
      searchEntry link visited path name position before

theorem Alike.refl (entry : Entry) : Alike entry entry := ⟨rfl, fun _ _ _ _ _ => rfl⟩

theorem Alike.trans {before mid after : Entry} (first : Alike before mid)
    (second : Alike mid after) : Alike before after :=
  ⟨second.state.trans first.state, fun link visited path name position =>
    (second.searched link visited path name position).trans
      (first.searched link visited path name position)⟩

/-- Every entry stays at its position as one that is alike. -/
def Keeps (tree next : FileTree) : Prop :=
  ∀ position entry, tree.at? position = some entry →
    ∃ after, next.at? position = some after ∧ Alike entry after

theorem Keeps.trans {tree mid next : FileTree} (first : Keeps tree mid) (second : Keeps mid next) :
    Keeps tree next := by
  intro position entry found
  obtain ⟨middle, inMid, alike⟩ := first position entry found
  obtain ⟨after, inNext, later⟩ := second position middle inMid
  exact ⟨after, inNext, alike.trans later⟩

theorem state_set_below (change : Option Entry) {entry : Entry} {position : Position}
    (below : position ≠ []) : (entry.set change position).state = entry.state := by
  cases entry with
  | file contents => rw [set_leaf _ _ (by simp)]
  | link target => rw [set_leaf _ _ (by simp)]
  | directory entries =>
      cases position with
      | nil => exact absurd rfl below
      | cons name rest =>
          by_cases last : rest = []
          · subst last
            obtain ⟨changed, setTo, _⟩ := set_last change name entries
            rw [setTo]
            rfl
          · cases found : findValue? name entries with
            | none => rw [set_missing change last found]
            | some child =>
                obtain ⟨changed, setTo, _⟩ := set_onTheWay change name last found
                rw [setTo]
                rfl

theorem keeps_of_makesDirectory {tree next : FileTree} {place : Position}
    (made : MakesDirectory tree next place) : Keeps tree next := by
  have free : tree.at? place = none := by
    cases found : tree.at? place with
    | none => rfl
    | some entry =>
        have absent := made.isFree
        unfold stateAt at absent
        rw [found] at absent
        cases entry <;> cases absent
  intro position entry found
  rw [made.isSet]
  -- An entry above the new directory changes below itself, any other not at all.
  by_cases below : position <+: place
  · obtain ⟨rest, rfl⟩ := below
    have further : rest ≠ [] := by
      rintro rfl
      rw [List.append_nil] at free
      cases free.symm.trans found
    rw [at?_append, found] at free
    exact ⟨_, at?_set_below _ found further, state_set_below _ further,
      fun _ _ _ _ _ => searchEntry_set_directory free _ _ _⟩
  · have notAbove : ¬ place <+: position := by
      rintro ⟨rest, rfl⟩
      rw [at?_append, free] at found
      cases found
    rw [at?_set_of_apart _ tree notAbove below]
    exact ⟨entry, found, .refl entry⟩

theorem keeps_makeDirectories {tree : FileTree} (plain : Plain tree) (path : String) :
    Keeps tree (makeDirectories tree path).1 := by
  have step (ancestor : String) (mid next : FileTree) (_ : names ancestor <+: names path)
      (before : Plain mid ∧ Keeps tree mid) (made : makeDirectory mid ancestor = .ok next) :
      Plain next ∧ Keeps tree next := by
    have grown := (Grows.refl (names ancestor) before.1).makeDirectory List.prefix_rfl made
    obtain ⟨place, makes, _⟩ := makesDirectory_of_ok before.1 made
    exact ⟨grown.plain, before.2.trans (keeps_of_makesDirectory makes)⟩
  have start : Plain tree ∧ Keeps tree tree :=
    ⟨plain, fun position entry found => ⟨entry, found, .refl entry⟩⟩
  exact (Disk.sound.makeDirectories_keeps step start).2

end Stanza.Files
