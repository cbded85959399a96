import Stanza.Proofs.Files.Searching

set_option autoImplicit false

/-!
Reading a tree again after directories were made in it and files moved. What a path led to
is found there again, with the same contents and the same documents below it, unless one of
the moved files lies at its place or below.
-/

namespace Stanza.Files

/-! ### Walks to an entry -/

theorem present_inj {here place : Position} {found entry : Entry}
    (same : Walk.done (.ok (.present here found)) = .done (.ok (.present place entry))) :
    here = place ∧ found = entry := by
  cases same
  exact ⟨rfl, rfl⟩

theorem walk_kept {tree next : FileTree} {followLast : Bool} {position place : Position}
    {path : List String} {entry after : Entry}
    (directories : ∀ position, stateAt tree position = .directory →
      stateAt next position = .directory)
    (found : next.at? place = some after) (same : after.state = entry.state)
    (walked : walk tree followLast position path = .done (.ok (.present place entry))) :
    walk next followLast position path = .done (.ok (.present place after)) := by
  fun_induction walk tree followLast position path with
  | case1 position here present =>
      cases walked
      rw [walk, found]
  | case3 position rest ih =>
      rw [walk, if_pos rfl]
      exact ih walked
  | case5 position rest root notDot ih =>
      rw [walk, if_neg notDot, if_pos rfl, if_neg root]
      exact ih walked
  | case9 position step rest notDot notParent short here entries present ih =>
      have below : stateAt next here = .directory := by
        apply directories
        unfold stateAt
        rw [present]
        rfl
      obtain ⟨others, inNext⟩ := at?_of_stateAt_directory below
      rw [walk, if_neg notDot, if_neg notParent, if_neg short]
      simp only [show next.at? (position ++ [step]) = _ from inNext]
      exact ih walked
  | case10 position step notDot notParent short here contents present =>
      obtain ⟨atPlace, rfl⟩ := present_inj walked
      rw [← atPlace] at found ⊢
      rw [walk, if_neg notDot, if_neg notParent, if_neg short]
      cases after <;> cases same
      simp only [show next.at? (position ++ [step]) = _ from found, if_true]
      rfl
  | case12 position step rest notDot notParent short here target present last =>
      obtain ⟨atPlace, rfl⟩ := present_inj walked
      rw [← atPlace] at found ⊢
      rw [walk, if_neg notDot, if_neg notParent, if_neg short]
      cases after <;> cases same
      simp only [show next.at? (position ++ [step]) = _ from found, if_pos last]
      rfl
  | _ => cases walked

theorem at?_of_walk {tree : FileTree} {followLast : Bool} {position place : Position}
    {path : List String} {entry : Entry}
    (walked : walk tree followLast position path = .done (.ok (.present place entry))) :
    tree.at? place = some entry := by
  fun_induction walk tree followLast position path with
  | case1 position here present =>
      cases walked
      exact present
  | case3 position rest ih => exact ih walked
  | case5 position rest root notDot ih => exact ih walked
  | case9 position step rest notDot notParent short here entries present ih => exact ih walked
  | case10 position step notDot notParent short here contents present =>
      obtain ⟨atPlace, rfl⟩ := present_inj walked
      rw [← atPlace]
      exact present
  | case12 position step rest notDot notParent short here target present last =>
      obtain ⟨atPlace, rfl⟩ := present_inj walked
      rw [← atPlace]
      exact present
  | _ => cases walked

theorem directoryAt?_of_walk {tree : FileTree} {followLast : Bool} {position place : Position}
    {path : List String} {entries : List (String × Entry)}
    (walked : walk tree followLast position path =
      .done (.ok (.present place (.directory entries)))) :
    directoryAt? tree position path = some place := by
  fun_induction walk tree followLast position path with
  | case1 position here present =>
      cases walked
      rfl
  | case3 position rest ih =>
      rw [directoryAt?_cons, directoryStep?, if_pos rfl]
      exact ih walked
  | case5 position rest root notDot ih =>
      rw [directoryAt?_cons, directoryStep?, if_neg notDot, if_pos rfl, if_neg root]
      exact ih walked
  | case9 position step rest notDot notParent short here others present ih =>
      have below : (stateAt tree here).isDirectory = true := by
        unfold stateAt
        rw [present]
        rfl
      rw [directoryAt?_cons, directoryStep?, if_neg notDot, if_neg notParent, if_neg short,
        if_pos below]
      exact ih walked
  | case10 | case12 => cases (present_inj walked).2
  | _ => cases walked

theorem walk_append_of_directoryAt? {tree : FileTree} (followLast : Bool)
    {position place : Position} {front : List String}
    (reached : directoryAt? tree position front = some place) (rest : List String) :
    walk tree followLast position (front ++ rest) = walk tree followLast place rest := by
  induction front generalizing position with
  | nil =>
      cases reached
      rfl
  | cons step steps ih =>
      rw [directoryAt?_cons] at reached
      obtain ⟨middle, first, later⟩ := Option.bind_eq_some_iff.mp reached
      unfold directoryStep? at first
      rw [List.cons_append]
      by_cases dot : step = "."
      · rw [if_pos dot] at first
        cases first
        rw [walk, if_pos dot]
        exact ih later
      · rw [if_neg dot] at first
        by_cases dots : step = ".."
        · rw [if_pos dots] at first
          split_ifs at first with root
          cases first
          rw [walk, if_neg dot, if_pos dots, if_neg root]
          exact ih later
        · rw [if_neg dots] at first
          split_ifs at first with long below
          cases first
          obtain ⟨entries, here⟩ := at?_of_stateAt_directory ((State.isDirectory_iff _).mp below)
          rw [walk, if_neg dot, if_neg dots, if_neg long]
          simp only [here]
          exact ih later

theorem walk_of_directoryAt? {tree : FileTree} {followLast : Bool} {position place : Position}
    {path : List String} {entry : Entry} (reached : directoryAt? tree position path = some place)
    (found : tree.at? place = some entry) :
    walk tree followLast position path = .done (.ok (.present place entry)) := by
  have walked := walk_append_of_directoryAt? followLast reached []
  rw [List.append_nil] at walked
  rw [walked, walk, found]

/-! ### Resolving -/

theorem resolve_eq_ok_iff {tree : FileTree} (plain : Plain tree) (followLast : Bool)
    (path : String) (target : Target) :
    resolve tree followLast path = .ok target ↔
      pathError? path = none ∧ walk tree followLast [] (steps path) = .done (.ok target) := by
  unfold resolve
  cases noError : pathError? path with
  | some error => simp
  | none =>
      simp only [linkLimit, resolveFrom, true_and]
      cases walked : walk tree followLast [] (steps path) with
      | done result => simp
      | follow directory target rest =>
          exact absurd walked (walk_ne_follow plain followLast [] _ directory target rest)

theorem resolve_of_read {tree : FileTree} {path : String} {contents : ByteArray}
    (done : read tree path = .ok contents) :
    ∃ position, resolve tree true path = .ok (.present position (.file contents)) := by
  unfold read lookup at done
  cases resolved : resolve tree true path with
  | error error =>
      rw [resolved] at done
      cases done
  | ok target =>
      rw [resolved] at done
      cases target with
      | absent directory name => cases done
      | present position entry =>
          cases entry with
          | file held =>
              cases done
              exact ⟨position, rfl⟩
          | directory entries => cases done
          | link target => cases done

theorem read_of_resolve {tree : FileTree} {path : String} {position : Position}
    {contents : ByteArray}
    (resolved : resolve tree true path = .ok (.present position (.file contents))) :
    read tree path = .ok contents := by
  unfold read lookup
  rw [resolved]

/-- The position of what a path leads to. -/
def location? (tree : FileTree) (path : String) : Option Position :=
  match resolve tree true path with
  | .ok (.present position _) => some position
  | _ => none

theorem location?_eq_some_iff (tree : FileTree) (path : String) (position : Position) :
    location? tree path = some position ↔
      ∃ entry, resolve tree true path = .ok (.present position entry) := by
  unfold location?
  cases resolve tree true path with
  | error error => simp
  | ok target => cases target <;> simp

theorem at?_of_resolve {tree : FileTree} {followLast : Bool} {path : String} {position : Position}
    {entry : Entry} (plain : Plain tree)
    (resolved : resolve tree followLast path = .ok (.present position entry)) :
    tree.at? position = some entry :=
  at?_of_walk ((resolve_eq_ok_iff plain followLast path _).mp resolved).2

theorem names_foldl_join (path : String) {below : List String}
    (parts : ∀ part ∈ below, IsName part) :
    names (below.foldl join path) = names path ++ below := by
  induction below generalizing path with
  | nil => exact (List.append_nil _).symm
  | cons part rest ih =>
      rw [List.foldl_cons, ih _ fun other member => parts other (List.mem_cons_of_mem _ member),
        names_join path (parts part List.mem_cons_self), List.append_assoc]
      rfl

theorem directoryAt?_of_resolve {tree : FileTree} (plain : Plain tree) {followLast : Bool}
    {path : String} {position : Position} {entries : List (String × Entry)}
    (resolved : resolve tree followLast path = .ok (.present position (.directory entries))) :
    directoryAt? tree [] (names path) = some position := by
  have walked := ((resolve_eq_ok_iff plain followLast path _).mp resolved).2
  have reached := directoryAt?_of_walk walked
  unfold steps at reached
  rw [directoryAt?_append] at reached
  obtain ⟨middle, first, dots⟩ := Option.bind_eq_some_iff.mp reached
  have same : directoryAt? tree middle (if endsWithSlash path then ["."] else []) =
      some middle := by
    apply directoryAt?_dots
    intro step member
    split_ifs at member
    · exact List.mem_singleton.mp member
    · cases member
  rw [first]
  exact same.symm.trans dots

/-- What is reached by names below a path lies below what the path leads to. -/
theorem prefix_of_resolve {tree : FileTree} (plain : Plain tree) {path : String}
    {top place : Position} {entry found : Entry} {below : List String}
    (parts : ∀ part ∈ below, IsName part)
    (resolved : resolve tree true path = .ok (.present top entry))
    (isDirectory : entry.isDirectory = true)
    (reached : resolve tree true (below.foldl join path) = .ok (.present place found)) :
    top <+: place := by
  cases entry with
  | file contents => cases isDirectory
  | link target => cases isDirectory
  | directory entries =>
      have atTop := directoryAt?_of_resolve plain resolved
      rcases List.eq_nil_or_concat below with rfl | ⟨front, name, rfl⟩
      · cases resolved.symm.trans reached
        exact List.prefix_rfl
      · rw [List.concat_eq_append] at reached parts
        rw [List.foldl_append, List.foldl_cons, List.foldl_nil] at reached
        -- The names before the last lead down from directory to directory, since no name is
        -- a step to the parent.
        have named := parts name (by simp)
        have frontNamed : ∀ part ∈ front, IsName part :=
          fun part member => parts part (List.mem_append_left [name] member)
        have led := leads_resolve plain (endsInName_join (front.foldl join path) named) true
        rw [reached] at led
        have position : position? tree (join (front.foldl join path) name) = some place := by
          cases led with
          | taken found inDirectory isEntry => exact found
        obtain ⟨_, directory, inDirectory, rfl⟩ := exists_of_position?_join named position
        rw [names_foldl_join path frontNamed, directoryAt?_append, atTop] at inDirectory
        have route := directoryAt?_straight
          (fun member => (frontNamed ".." member).notDots rfl) inDirectory
        rw [route, List.append_assoc]
        exact List.prefix_append top _

/-! ### Trees that were written to -/

/-- None of some positions lies at a position or below. -/
def ClearOf (places : List Position) (position : Position) : Prop :=
  ∀ place ∈ places, ¬ position <+: place

instance (places : List Position) (position : Position) : Decidable (ClearOf places position) :=
  inferInstanceAs (Decidable (∀ place ∈ places, ¬ position <+: place))

/-- Whatever lies apart from some positions is there again, as one that is alike. -/
structure Rewrites (places : List Position) (tree next : FileTree) : Prop where
  before : Plain tree
  after : Plain next
  directories : ∀ position, stateAt tree position = .directory → stateAt next position = .directory
  entries : ∀ position entry, tree.at? position = some entry → ClearOf places position →
    ∃ later, next.at? position = some later ∧ Alike entry later

namespace Rewrites

variable {places : List Position} {tree next : FileTree}

theorem resolve_kept (rewrites : Rewrites places tree next) {path : String} {position : Position}
    {entry : Entry} (clear : ClearOf places position)
    (resolved : resolve tree true path = .ok (.present position entry)) :
    ∃ later, resolve next true path = .ok (.present position later) ∧ Alike entry later := by
  obtain ⟨noError, walked⟩ := (resolve_eq_ok_iff rewrites.before true path _).mp resolved
  obtain ⟨later, found, alike⟩ :=
    rewrites.entries position entry (at?_of_resolve rewrites.before resolved) clear
  refine ⟨later, (resolve_eq_ok_iff rewrites.after true path _).mpr ⟨noError, ?_⟩, alike⟩
  exact walk_kept rewrites.directories found alike.state walked

theorem read_kept (rewrites : Rewrites places tree next) {path : String} {position : Position}
    {contents : ByteArray} (clear : ClearOf places position)
    (resolved : resolve tree true path = .ok (.present position (.file contents))) :
    read next path = .ok contents := by
  obtain ⟨later, inNext, alike⟩ := rewrites.resolve_kept clear resolved
  have same := alike.state
  cases later <;> cases same
  exact read_of_resolve inNext

theorem pathExists_kept (rewrites : Rewrites places tree next) {path : String}
    (clear : ∀ position ∈ location? tree path, ClearOf places position)
    (present : pathExists tree path = true) : pathExists next path = true := by
  unfold pathExists lookup at present
  cases resolved : resolve tree true path with
  | error error =>
      rw [resolved] at present
      cases present
  | ok target =>
      rw [resolved] at present
      cases target with
      | absent directory name => cases present
      | present position entry =>
          have located := (location?_eq_some_iff _ _ _).mpr ⟨entry, resolved⟩
          obtain ⟨later, inNext, _⟩ := rewrites.resolve_kept (clear position located) resolved
          unfold pathExists lookup
          rw [inNext]

/-- The same documents lie below a directory, and each reads as before if it could be read. -/
theorem searchEntry_kept (rewrites : Rewrites places tree next) (regular : Regular tree)
    {path : String} {position : Position} {entries others : List (String × Entry)}
    {files : List String} (clear : ClearOf places position)
    (resolved : resolve tree true path = .ok (.present position (.directory entries)))
    (alike : Alike (.directory entries) (.directory others))
    (found : searchEntry (searchLink tree (tree.size + 1)) [] path "" position
      (.directory entries) = .ok files) :
    searchEntry (searchLink next (next.size + 1)) [] path "" position (.directory others) =
        .ok files ∧
      ∀ file ∈ files, ∀ contents,
        read tree file = .ok contents → read next file = .ok contents := by
  have below := regular.at? (at?_of_resolve rewrites.before resolved)
  constructor
  · rw [alike.searched, ← found]
    exact searchEntry_regular below path "" position position
  · intro file member held done
    obtain ⟨parts, named, rfl⟩ := mem_searchEntry below found member
    obtain ⟨place, reached⟩ := resolve_of_read done
    apply rewrites.read_kept _ reached
    intro other inside under
    exact clear other inside
      ((prefix_of_resolve rewrites.before named resolved rfl reached).trans under)

/-- The same documents are found again, and each reads as before if it could be read. -/
theorem documentFiles_kept (rewrites : Rewrites places tree next) (regular : Regular tree)
    {path : String} (clear : ∀ position ∈ location? tree path, ClearOf places position)
    {files : List String} (found : documentFiles tree path = .ok files) :
    documentFiles next path = .ok files ∧
      ∀ file ∈ files, ∀ contents,
        read tree file = .ok contents → read next file = .ok contents := by
  unfold documentFiles at found
  cases resolved : resolve tree true path with
  | error error =>
      rw [resolved] at found
      cases found
  | ok target =>
      rw [resolved] at found
      cases target with
      | absent directory name => cases found
      | present position entry =>
          have isClear := clear position ((location?_eq_some_iff _ _ _).mpr ⟨entry, resolved⟩)
          obtain ⟨later, inNext, alike⟩ := rewrites.resolve_kept isClear resolved
          have same := alike.state
          unfold documentFiles
          rw [inNext]
          cases entry with
          | link target => cases found
          | file contents =>
              cases later <;> cases same
              cases found
              refine ⟨rfl, fun file member held done => ?_⟩
              cases List.mem_singleton.mp member
              rw [rewrites.read_kept isClear resolved, ← read_of_resolve resolved, done]
          | directory entries =>
              cases later <;> cases same
              exact rewrites.searchEntry_kept regular isClear resolved alike found

end Rewrites

end Stanza.Files
