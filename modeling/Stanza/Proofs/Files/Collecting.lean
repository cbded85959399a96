import Mathlib.Tactic.Choose
import Stanza.Proofs.Files.Rereading
import Stanza.Proofs.Text.ByteOrder

set_option autoImplicit false

/-!
The documents that are collected below a directory without links: every file with one of the
three extensions, once, in order of the paths. Paths are compared name by name, so that what is
in a directory stays together, and names by their bytes.
-/

namespace Stanza.Files

/-- No directory holds two entries of one name. -/
inductive DistinctNames : Entry → Prop where
  | file (contents : ByteArray) : DistinctNames (.file contents)
  | link (target : String) : DistinctNames (.link target)
  | directory {entries : List (String × Entry)} (apart : (entries.map Prod.fst).Nodup)
      (below : ∀ item ∈ entries, DistinctNames item.2) : DistinctNames (.directory entries)

/-- A position below an entry of some name at which there is a file under a document's name. -/
def IsDocumentAt (name : String) (entry : Entry) (below : Position) : Prop :=
  ∃ contents, entry.at? below = some (.file contents) ∧
    isDocumentName (below.getLastD name) = true

theorem isDocumentAt_file (name : String) (contents : ByteArray) (below : Position) :
    IsDocumentAt name (.file contents) below ↔ below = [] ∧ isDocumentName name = true := by
  constructor
  · rintro ⟨_, found, named⟩
    cases below with
    | nil => exact ⟨rfl, named⟩
    | cons first rest => cases found
  · rintro ⟨rfl, named⟩
    exact ⟨contents, rfl, named⟩

theorem isDocumentAt_directory (name : String) {entries : List (String × Entry)}
    (apart : (entries.map Prod.fst).Nodup) (below : Position) :
    IsDocumentAt name (.directory entries) below ↔
      ∃ item ∈ entries, ∃ rest, below = item.1 :: rest ∧ IsDocumentAt item.1 item.2 rest := by
  constructor
  · rintro ⟨contents, found, named⟩
    cases below with
    | nil => cases found
    | cons first rest =>
        rw [at?_directory_cons] at found
        obtain ⟨child, here, later⟩ := Option.bind_eq_some_iff.mp found
        rw [List.getLastD_cons] at named
        exact ⟨(first, child), mem_of_findValue? here, rest, rfl, contents, later, named⟩
  · rintro ⟨item, member, rest, rfl, contents, later, named⟩
    have here := (findValue?_eq_some_iff apart).mpr member
    refine ⟨contents, ?_, ?_⟩
    · rw [at?_directory_cons, here]
      exact later
    · rw [List.getLastD_cons]
      exact named

/-! ### Positions in order -/

/-- The positions of the documents below an entry of some name, in order of the names. -/
structure Listed (name : String) (entry : Entry) (places : List Position) : Prop where
  ordered : places.Pairwise (· < ·)
  mem_iff : ∀ below, below ∈ places ↔ IsDocumentAt name entry below

theorem listed_file (name : String) (contents : ByteArray) :
    Listed name (.file contents) (if isDocumentName name then [[]] else []) := by
  constructor
  · split_ifs <;> simp
  · intro below
    rw [isDocumentAt_file]
    by_cases named : isDocumentName name = true <;> simp [named]

theorem sortByName_ordered {α : Type} {entries : List (String × α)}
    (apart : (entries.map Prod.fst).Nodup) :
    (Entry.sortByName entries).Pairwise fun left right => left.1 < right.1 := by
  have weakly : (Entry.sortByName entries).Pairwise fun left right =>
      decide (left.1 ≤ right.1) = true :=
    List.pairwise_mergeSort nameLe_trans nameLe_total entries
  have distinct : ((Entry.sortByName entries).map Prod.fst).Nodup :=
    ((List.mergeSort_perm entries _).map Prod.fst).nodup_iff.mpr apart
  refine (weakly.and (List.pairwise_map.mp distinct)).imp ?_
  rintro left right ⟨atMost, different⟩
  exact lt_of_le_of_ne (of_decide_eq_true atMost) different

/-- The documents of each entry, under its name, are altogether those of the directory. -/
theorem listed_directory (name : String) {entries : List (String × Entry)}
    (apart : (entries.map Prod.fst).Nodup) {placesOf : String × Entry → List Position}
    (each : ∀ item ∈ entries, Listed item.1 item.2 (placesOf item)) :
    Listed name (.directory entries)
      ((Entry.sortByName entries).flatMap fun item => (placesOf item).map (item.1 :: ·)) := by
  constructor
  · refine List.pairwise_flatMap.mpr ⟨?_, ?_⟩
    · intro item member
      refine List.pairwise_map.mpr ((each item (mem_sortByName.mp member)).ordered.imp ?_)
      exact fun before => List.cons_lt_cons_iff.mpr (.inr ⟨rfl, before⟩)
    · refine (sortByName_ordered apart).imp ?_
      intro left right before first inLeft second inRight
      obtain ⟨_, _, rfl⟩ := List.mem_map.mp inLeft
      obtain ⟨_, _, rfl⟩ := List.mem_map.mp inRight
      exact List.cons_lt_cons_iff.mpr (.inl before)
  · intro below
    simp only [List.mem_flatMap, List.mem_map, mem_sortByName, isDocumentAt_directory name apart]
    constructor
    · rintro ⟨item, member, rest, inPlaces, rfl⟩
      exact ⟨item, member, rest, rfl, ((each item member).mem_iff rest).mp inPlaces⟩
    · rintro ⟨item, member, rest, rfl, isDocument⟩
      exact ⟨item, member, rest, ((each item member).mem_iff rest).mpr isDocument, rfl⟩

/-! ### Searching -/

variable {link : LinkSearch} {visited : List Position}

theorem sortByName_map {α β : Type} (change : String × α → β) (entries : List (String × α)) :
    Entry.sortByName (entries.map fun item => (item.1, change item)) =
      (Entry.sortByName entries).map fun item => (item.1, change item) := by
  symm
  apply List.map_mergeSort
  intros
  rfl

theorem collect_map (entries : List (String × Entry)) (found : String × Entry → List String) :
    collect (entries.map fun item => (item.1, .ok (found item))) =
      .ok ((Entry.sortByName entries).flatMap found) := by
  have all (items : List (String × Entry)) :
      (items.map fun item => (item.1, (.ok (found item) : Found))).mapM Prod.snd =
        .ok (items.map found) := by
    rw [mapM_eq_ok_iff, List.forall₂_map_left_iff, List.forall₂_map_right_iff]
    exact List.forall₂_same.mpr fun _ _ => rfl
  rw [collect, sortByName_map, all]
  rfl

/-- A search finds the documents by their paths in order of their positions. -/
theorem exists_listed {entry : Entry} (regular : Regular entry) (distinct : DistinctNames entry)
    (name : String) :
    ∃ places, Listed name entry places ∧ ∀ link visited path position,
      searchEntry link visited path name position entry =
        .ok (places.map fun below => below.foldl join path) := by
  -- The positions are the same along whatever path the search came; those below a directory
  -- are chosen for each of its entries and put together in order of the names.
  induction regular generalizing name with
  | file contents =>
      refine ⟨_, listed_file name contents, ?_⟩
      intro link visited path position
      rw [searchEntry]
      split_ifs <;> rfl
  | @directory entries named each ih =>
      cases distinct with
      | directory apart below =>
          choose! placesOf listed searched using
            fun item member => ih item member (below item member) item.1
          refine ⟨_, listed_directory name apart listed, ?_⟩
          intro link visited path position
          rw [searchEntry, searchEntries_eq_map]
          have found : (entries.map fun item => (item.1, searchEntry link (position :: visited)
              (join path item.1) item.1 (position ++ [item.1]) item.2)) =
              entries.map fun item => (item.1, .ok ((placesOf item).map
                fun rest => rest.foldl join (join path item.1))) :=
            List.map_congr_left fun item member => by rw [searched item member]
          rw [found, collect_map, List.map_flatMap]
          simp only [List.map_map, Function.comp_def, List.foldl_cons]

/-! ### Paths -/

/-- What paths are compared by: the bytes of their names. -/
def pathBytes (path : String) : List (List Nat) := (names path).map Text.bytes

theorem Regular.isName {entry found : Entry} (regular : Regular entry) {below : Position}
    (isThere : entry.at? below = some found) : ∀ part ∈ below, IsName part := by
  induction below generalizing entry with
  | nil => simp
  | cons first rest ih =>
      cases regular with
      | file contents => cases isThere
      | directory named each =>
          rw [at?_directory_cons] at isThere
          obtain ⟨child, here, later⟩ := Option.bind_eq_some_iff.mp isThere
          have member := mem_of_findValue? here
          exact List.forall_mem_cons.mpr ⟨named _ member, ih (each _ member) later⟩

theorem pathBytes_lt (path : String) {first second : Position}
    (firstNamed : ∀ part ∈ first, IsName part) (secondNamed : ∀ part ∈ second, IsName part)
    (before : first < second) :
    pathBytes (first.foldl join path) < pathBytes (second.foldl join path) := by
  rw [pathBytes, pathBytes, names_foldl_join path firstNamed, names_foldl_join path secondNamed,
    List.map_append, List.map_append]
  exact List.append_left_lt (List.map_lt (fun _ _ => Text.bytes_lt_bytes_iff.mpr) before)

theorem extension?_join (base : String) {name : String} (named : IsName name) :
    extension? (join base name) = nameExtension? name := by
  obtain ⟨parts, split, _⟩ := splitPath_join base named
  have last : fileName? (join base name) = some name := by
    rw [fileName?, split, trimParts_concat parts named, List.getLast?_concat]
    simp [named.nonempty, named.notDot, named.notDots]
  rw [extension?, last]
  rfl

theorem nameExtension?_isSuffix {name ending : String}
    (extended : nameExtension? name = some ending) : ending.toList <:+ name.toList := by
  have after : ending.toList.reverse = name.toList.reverse.takeWhile fun c => c ≠ '.' := by
    unfold nameExtension? at extended
    simp only at extended
    split at extended <;> cases extended
    rw [String.toList_ofList, List.reverse_reverse]
  rw [← List.reverse_prefix, after]
  exact List.takeWhile_prefix _

theorem isDocumentName_iff (name : String) :
    isDocumentName name = true ↔
      ∃ ending ∈ documentExtensions, nameExtension? name = some ending := by
  unfold isDocumentName
  cases nameExtension? name with
  | none => simp
  | some ending => simp

/--
The paths of the documents below a directory: those of all files with one of the three
extensions, each once, and in order.
-/
structure DocumentsBelow (path : String) (entries : List (String × Entry)) (files : List String) :
    Prop where
  mem_iff : ∀ file, file ∈ files ↔ ∃ below contents,
    (Entry.directory entries).at? below = some (.file contents) ∧ file = below.foldl join path ∧
      ∃ ending ∈ documentExtensions, extension? file = some ending
  nodup : files.Nodup
  ordered : files.Pairwise fun left right => pathBytes left < pathBytes right

/-- Which paths these are and in which order is settled by the entries alone. -/
theorem DocumentsBelow.unique {path : String} {entries : List (String × Entry)}
    {files others : List String} (here : DocumentsBelow path entries files)
    (there : DocumentsBelow path entries others) : files = others := by
  have perm : files.Perm others := (List.perm_ext_iff_of_nodup here.nodup there.nodup).mpr
    fun file => (here.mem_iff file).trans (there.mem_iff file).symm
  refine perm.eq_of_pairwise ?_ here.ordered there.ordered
  intro left right _ _ before after
  exact absurd after (lt_asymm before)

section Directory

variable {tree : FileTree} {path : String} {position : Position}
  {entries : List (String × Entry)} {below : Position}

/-- The path of a file below a directory ends in the name of the file. -/
theorem exists_join_of_file (regular : Regular (.directory entries)) {contents : ByteArray}
    (isThere : (Entry.directory entries).at? below = some (.file contents)) (path : String) :
    ∃ front name, below = front ++ [name] ∧ (∀ part ∈ front, IsName part) ∧ IsName name ∧
      below.foldl join path = join (front.foldl join path) name := by
  rcases List.eq_nil_or_concat below with rfl | ⟨front, name, rfl⟩
  · cases isThere
  · have named := regular.isName isThere
    rw [List.concat_eq_append] at named ⊢
    refine ⟨front, name, rfl, fun part member => named part (by simp [member]),
      named name (by simp), ?_⟩
    rw [List.foldl_append, List.foldl_cons, List.foldl_nil]

theorem isDocumentAt_iff (regular : Regular (.directory entries)) (name : String) :
    IsDocumentAt name (.directory entries) below ↔
      ∃ contents, (Entry.directory entries).at? below = some (.file contents) ∧
        ∃ ending ∈ documentExtensions, extension? (below.foldl join path) = some ending := by
  refine exists_congr fun contents => and_congr_right fun isThere => ?_
  obtain ⟨front, last, split, _, named, joined⟩ := exists_join_of_file regular isThere path
  rw [isDocumentName_iff, joined, extension?_join _ named, split, List.getLastD_concat]

theorem Listed.documentsBelow (regular : Regular (.directory entries)) {name : String}
    {places : List Position} (listed : Listed name (.directory entries) places) :
    DocumentsBelow path entries (places.map fun below => below.foldl join path) := by
  have ordered : (places.map fun below => below.foldl join path).Pairwise
      fun left right => pathBytes left < pathBytes right := by
    refine List.pairwise_map.mpr (listed.ordered.imp_of_mem ?_)
    intro first second inPlaces later before
    obtain ⟨_, firstThere, _⟩ := (listed.mem_iff first).mp inPlaces
    obtain ⟨_, secondThere, _⟩ := (listed.mem_iff second).mp later
    exact pathBytes_lt path (regular.isName firstThere) (regular.isName secondThere) before
  refine ⟨?_, ordered.imp fun before => ?_, ordered⟩
  · intro file
    rw [List.mem_map]
    constructor
    · rintro ⟨below, member, rfl⟩
      obtain ⟨contents, isThere, extended⟩ :=
        (isDocumentAt_iff regular name).mp ((listed.mem_iff below).mp member)
      exact ⟨below, contents, isThere, rfl, extended⟩
    · rintro ⟨below, contents, isThere, rfl, extended⟩
      exact ⟨below, (listed.mem_iff below).mpr
        ((isDocumentAt_iff regular name).mpr ⟨contents, isThere, extended⟩), rfl⟩
  · rintro rfl
    exact lt_irrefl _ before

/-- A path that is collected ends in the last character of an extension. -/
theorem DocumentsBelow.exists_ending {files : List String}
    (collected : DocumentsBelow path entries files) (regular : Regular (.directory entries))
    {file : String} (member : file ∈ files) :
    ∃ ending ∈ documentExtensions, file.toList.getLast? = ending.toList.getLast? := by
  obtain ⟨below, contents, isThere, rfl, ending, listed, extended⟩ :=
    (collected.mem_iff file).mp member
  obtain ⟨front, last, _, _, named, joined⟩ := exists_join_of_file regular isThere path
  rw [joined, extension?_join _ named] at extended
  obtain ⟨stem, chars⟩ := nameExtension?_isSuffix extended
  have some_char : ∀ ending ∈ documentExtensions, ending.toList ≠ [] := by decide
  refine ⟨ending, listed, ?_⟩
  rw [joined, toList_join_getLast? _ named, ← chars,
    List.getLast?_append_of_ne_nil _ (some_char ending listed)]

theorem exists_documentsBelow
    (isThere : resolve tree true path = .ok (.present position (.directory entries)))
    (regular : Regular (.directory entries)) (distinct : DistinctNames (.directory entries)) :
    ∃ files, documentFiles tree path = .ok files ∧ DocumentsBelow path entries files := by
  obtain ⟨places, listed, searched⟩ := exists_listed regular distinct ""
  refine ⟨_, ?_, listed.documentsBelow regular⟩
  rw [documentFiles, isThere]
  exact searched (searchLink tree (tree.size + 1)) [] path position

end Directory

/-! ### Reading what was collected -/

/-- Below a place, names lead down to what is there. -/
theorem walk_below {tree entry found : Entry} (regular : Regular entry) {place below : Position}
    (here : tree.at? place = some entry) (isThere : entry.at? below = some found) :
    walk tree true place below = .done (.ok (.present (place ++ below) found)) := by
  induction below generalizing place entry with
  | nil =>
      cases isThere
      rw [walk, here, List.append_nil]
  | cons name rest ih =>
      cases regular with
      | file contents => cases isThere
      | @directory entries named each =>
          rw [at?_directory_cons] at isThere
          obtain ⟨child, inEntries, later⟩ := Option.bind_eq_some_iff.mp isThere
          have member := mem_of_findValue? inEntries
          have isName := named _ member
          have next : tree.at? (place ++ [name]) = some child := by
            rw [at?_append, here, Option.bind_some, at?_directory_cons, inEntries]
            rfl
          rw [walk, if_neg isName.notDot, if_neg isName.notDots,
            if_neg (Nat.not_lt.mpr isName.short)]
          cases each _ member with
          | file contents =>
              cases rest with
              | cons second others => cases later
              | nil =>
                  cases later
                  simp only [next, if_true]
          | directory childNamed childEach =>
              have walked := ih (.directory childNamed childEach) next later
              rw [List.append_assoc] at walked
              simp only [next]
              exact walked

section Follow

variable {tree : FileTree} {position place : Position} {front dots rest : List String}

/-- A link on the way is followed whatever comes after it. -/
theorem walk_append_of_follow (dotted : ∀ step ∈ dots, step = ".")
    {target : String} {left : List String}
    (walked : walk tree true position (front ++ dots) = .follow place target left) :
    ∃ later, left = later ++ dots ∧
      walk tree true position (front ++ rest) = .follow place target (later ++ rest) := by
  induction front generalizing position with
  | nil =>
      have reached := walk_append_of_directoryAt? true (directoryAt?_dots tree position dotted) []
      rw [List.append_nil, walk] at reached
      rw [List.nil_append, reached] at walked
      cases found : tree.at? position <;> simp [found] at walked
  | cons step steps ih =>
      rw [List.cons_append] at walked ⊢
      by_cases dot : step = "."
      · rw [walk, if_pos dot] at walked ⊢
        exact ih walked
      by_cases parents : step = ".."
      · rw [walk, if_neg dot, if_pos parents] at walked ⊢
        by_cases root : position = []
        · rw [if_pos root] at walked
          cases walked
        · rw [if_neg root] at walked ⊢
          exact ih walked
      by_cases long : nameLimit < step.utf8ByteSize
      · rw [walk, if_neg dot, if_neg parents, if_pos long] at walked
        cases walked
      rw [walk, if_neg dot, if_neg parents, if_neg long] at walked ⊢
      simp only [Bool.not_true, Bool.and_false, Bool.false_eq_true, if_false] at walked ⊢
      cases found : tree.at? (position ++ [step]) with
      | none =>
          rw [found] at walked
          by_cases last : steps ++ dots = [] <;> simp [last] at walked
      | some entry =>
          rw [found] at walked
          cases entry with
          | directory entries => exact ih walked
          | file contents => by_cases last : steps ++ dots = [] <;> simp [last] at walked
          | link target =>
              cases walked
              exact ⟨steps, rfl, rfl⟩

theorem resolveFrom_append (dotted : ∀ step ∈ dots, step = ".")
    {links : Nat} {entries : List (String × Entry)} {result : Except FileError Target}
    (reached : resolveFrom tree true links position (front ++ dots) =
      .ok (.present place (.directory entries)))
    (walked : walk tree true place rest = .done result) :
    resolveFrom tree true links position (front ++ rest) = result := by
  -- By induction on the links that are followed: each leaves names that end in the same dots.
  induction links generalizing position front with
  | zero => cases reached
  | succ links ih =>
      rw [resolveFrom] at reached ⊢
      cases onTheWay : walk tree true position (front ++ dots) with
      | done outcome =>
          rw [onTheWay] at reached
          cases (reached : outcome = _)
          have whole := directoryAt?_of_walk onTheWay
          rw [directoryAt?_append] at whole
          obtain ⟨middle, first, last⟩ := Option.bind_eq_some_iff.mp whole
          cases (directoryAt?_dots tree middle dotted).symm.trans last
          rw [walk_append_of_directoryAt? true first rest, walked]
      | follow directory target left =>
          obtain ⟨later, rfl, again⟩ := walk_append_of_follow dotted onTheWay
          rw [onTheWay] at reached
          rw [again]
          simp only at reached ⊢
          split_ifs at reached ⊢
          rw [← List.append_assoc] at reached ⊢
          exact ih reached

theorem at?_of_resolveFrom {tree : FileTree} {followLast : Bool} {links : Nat}
    {position place : Position} {path : List String} {entry : Entry}
    (resolved : resolveFrom tree followLast links position path = .ok (.present place entry)) :
    tree.at? place = some entry := by
  induction links generalizing position path with
  | zero => cases resolved
  | succ links ih =>
      rw [resolveFrom] at resolved
      cases walked : walk tree followLast position path with
      | done result =>
          rw [walked] at resolved
          cases (resolved : result = _)
          exact at?_of_walk walked
      | follow directory target rest =>
          rw [walked] at resolved
          simp only at resolved
          split_ifs at resolved
          exact ih resolved

end Follow

theorem read_below {tree : FileTree} {path : String} {position below : Position}
    {entries : List (String × Entry)} {contents : ByteArray}
    (isThere : resolve tree true path = .ok (.present position (.directory entries)))
    (regular : Regular (.directory entries))
    (found : (Entry.directory entries).at? below = some (.file contents))
    (noError : pathError? (below.foldl join path) = none) :
    read tree (below.foldl join path) = .ok contents := by
  have pathHasNone : pathError? path = none := by
    cases error : pathError? path with
    | none => rfl
    | some error =>
        rw [resolve, error] at isThere
        cases isThere
  rw [resolve, pathHasNone] at isThere
  have here : tree.at? position = some (.directory entries) := at?_of_resolveFrom isThere
  have walked := walk_below regular here found
  -- Joined to names the path loses the slash at its end, for which it has a dot as a step.
  have dotted : ∀ step ∈ if endsWithSlash path then ["."] else [], step = "." := by
    split_ifs <;> simp
  have names : steps (below.foldl join path) = names path ++ below := by
    obtain ⟨front, last, split, frontNamed, named, joined⟩ :=
      exists_join_of_file regular found path
    rw [joined, steps_join _ named, names_foldl_join path frontNamed, List.append_assoc, split]
  have resolved : resolve tree true (below.foldl join path) =
      .ok (.present (position ++ below) (.file contents)) := by
    rw [resolve, noError, names]
    exact resolveFrom_append dotted isThere walked
  exact read_of_resolve resolved

end Stanza.Files
