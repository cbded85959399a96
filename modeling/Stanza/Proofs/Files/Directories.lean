import Stanza.Proofs.Files.Changes

set_option autoImplicit false

/-!
Making a directory with the missing ones above it: empty directories come at free
positions, and nothing else changes. When the path has no step to a parent they come on
the way down along its names only.
-/

namespace Stanza.Files

/-! ### Free ends of walks -/

/-- The position of a path without steps to a parent. -/
def straight (path : List String) : Position := path.filter fun step => step ≠ "."

theorem straight_dot (rest : List String) : straight ("." :: rest) = straight rest := by
  simp [straight]

theorem straight_cons {step : String} (notDot : step ≠ ".") (rest : List String) :
    straight (step :: rest) = step :: straight rest := by
  simp [straight, notDot]

/-- A walk ends at a free position when its last step is the free name, and the steps before
lead to the directory. -/
theorem walk_absent {tree : FileTree} {followLast : Bool} {position directory : Position}
    {path : List String} {name : String}
    (walked : walk tree followLast position path = .done (.ok (.absent directory name))) :
    stateAt tree (directory ++ [name]) = .absent ∧
      ∃ front, path = front ++ [name] ∧ directoryAt? tree position front = some directory ∧
        ∀ next, stateAt next (directory ++ [name]) = .directory →
          directoryStep? next directory name = some (directory ++ [name]) := by
  fun_induction walk tree followLast position path with
  | case3 position rest ih =>
      obtain ⟨isFree, front, parts, reached, last⟩ := ih walked
      refine ⟨isFree, "." :: front, by rw [parts, List.cons_append], ?_, last⟩
      rw [directoryAt?_cons]
      exact reached
  | case5 position rest root notDot ih =>
      obtain ⟨isFree, front, parts, reached, last⟩ := ih walked
      refine ⟨isFree, ".." :: front, by rw [parts, List.cons_append], ?_, last⟩
      have up : directoryStep? tree position ".." = some position.dropLast := by
        rw [directoryStep?, if_neg notDot, if_pos rfl, if_neg root]
      rw [directoryAt?_cons, up]
      exact reached
  | case7 position step notDot notParent short here nothing =>
      cases walked
      refine ⟨?_, [], rfl, rfl, ?_⟩
      · unfold stateAt
        rw [nothing]
        rfl
      · intro next isDirectory
        rw [directoryStep?, if_neg notDot, if_neg notParent, if_neg short,
          if_pos ((State.isDirectory_iff _).mpr isDirectory)]
  | case9 position step rest notDot notParent short here entries found ih =>
      obtain ⟨isFree, front, parts, reached, last⟩ := ih walked
      refine ⟨isFree, step :: front, by rw [parts, List.cons_append], ?_, last⟩
      have below : stateAt tree here = .directory := by
        unfold stateAt
        rw [found]
        rfl
      have down : directoryStep? tree position step = some here := by
        rw [directoryStep?, if_neg notDot, if_neg notParent, if_neg short,
          if_pos ((State.isDirectory_iff _).mpr below)]
      rw [directoryAt?_cons, down]
      exact reached
  | _ => cases walked

theorem walk_ne_follow {tree : FileTree} (plain : Plain tree) (followLast : Bool)
    (position : Position) (path : List String) (directory : Position) (target : String)
    (rest : List String) : walk tree followLast position path ≠ .follow directory target rest := by
  fun_induction walk tree followLast position path with
  | case3 position rest ih => exact ih
  | case5 position rest root notDot ih => exact ih
  | case9 position step rest notDot notParent short here entries found ih => exact ih
  | case13 position step rest notDot notParent short here target found last =>
      exact absurd found (plain.at?_ne_link _ target)
  | _ => simp

/-! ### Directories along paths -/

theorem directoryStep?_straight {tree : FileTree} {position next : Position} {step : String}
    (notParent : step ≠ "..") (reached : directoryStep? tree position step = some next) :
    next = position ++ straight [step] := by
  unfold directoryStep? at reached
  by_cases dot : step = "."
  · rw [if_pos dot] at reached
    cases reached
    rw [dot, straight_dot]
    exact (List.append_nil position).symm
  · rw [if_neg dot, if_neg notParent] at reached
    split_ifs at reached
    cases reached
    rw [straight_cons dot]
    rfl

theorem directoryAt?_straight {tree : FileTree} {position directory : Position}
    {path : List String} (noParents : ".." ∉ path)
    (reached : directoryAt? tree position path = some directory) :
    directory = position ++ straight path := by
  induction path generalizing position with
  | nil =>
      cases reached
      exact (List.append_nil _).symm
  | cons step rest ih =>
      rw [directoryAt?_cons] at reached
      obtain ⟨next, first, later⟩ := Option.bind_eq_some_iff.mp reached
      have notParent : step ≠ ".." := fun same => noParents (same ▸ List.mem_cons_self)
      rw [ih (fun member => noParents (List.mem_cons_of_mem _ member)) later,
        directoryStep?_straight notParent first, List.append_assoc, straight, straight, straight,
        ← List.filter_append]
      rfl

theorem directoryStep?_of_stateAt {tree next : FileTree} {position directory : Position}
    {step : String} (reached : directoryStep? tree position step = some directory)
    (isDirectory : directory = position ++ [step] → stateAt tree directory = .directory →
      stateAt next directory = .directory) :
    directoryStep? next position step = some directory := by
  unfold directoryStep? at reached ⊢
  by_cases dot : step = "."
  · rw [if_pos dot] at reached ⊢
    exact reached
  · rw [if_neg dot] at reached ⊢
    by_cases parent : step = ".."
    · rw [if_pos parent] at reached ⊢
      exact reached
    · rw [if_neg parent] at reached ⊢
      split_ifs at reached with long below
      cases reached
      have here := isDirectory rfl ((State.isDirectory_iff _).mp below)
      rw [if_neg long, if_pos ((State.isDirectory_iff _).mpr here)]

theorem directoryAt?_of_stateAt {tree next : FileTree} {position directory : Position}
    {path : List String} (noParents : ".." ∉ path)
    (reached : directoryAt? next position path = some directory)
    (isDirectory : stateAt tree directory = .directory) :
    directoryAt? tree position path = some directory := by
  induction path generalizing position with
  | nil => exact reached
  | cons step rest ih =>
      have noLater : ".." ∉ rest := fun member => noParents (List.mem_cons_of_mem _ member)
      rw [directoryAt?_cons] at reached
      obtain ⟨middle, first, later⟩ := Option.bind_eq_some_iff.mp reached
      have whole := directoryAt?_straight noLater later
      have same : directoryStep? tree position step = some middle := by
        apply directoryStep?_of_stateAt first
        intro _ _
        rw [whole] at isDirectory
        cases remaining : straight rest with
        | nil =>
            rw [remaining, List.append_nil] at isDirectory
            exact isDirectory
        | cons name others =>
            rw [remaining] at isDirectory
            apply stateAt_front _ name others
            rw [isDirectory]
            simp
      rw [directoryAt?_cons, same]
      exact ih noLater later

theorem directoryAt?_mono {tree next : FileTree}
    (kept : ∀ position, stateAt tree position = .directory → stateAt next position = .directory)
    {position directory : Position} {path : List String}
    (reached : directoryAt? tree position path = some directory) :
    directoryAt? next position path = some directory := by
  induction path generalizing position with
  | nil => exact reached
  | cons step rest ih =>
      rw [directoryAt?_cons] at reached ⊢
      obtain ⟨middle, first, later⟩ := Option.bind_eq_some_iff.mp reached
      rw [directoryStep?_of_stateAt first fun _ => kept middle]
      exact ih later

/-! ### One directory -/

structure MakesDirectory (tree next : FileTree) (position : Position) : Prop where
  isFree : stateAt tree position = .absent
  isSet : next = tree.set (some (.directory [])) position
  after : stateAt next = Function.update (stateAt tree) position .directory

namespace MakesDirectory

variable {tree next : FileTree} {place : Position}

theorem isThere (makes : MakesDirectory tree next place) : stateAt next place = .directory := by
  rw [makes.after, Function.update_self]

theorem kept (makes : MakesDirectory tree next place) {position : Position}
    (present : stateAt tree position ≠ .absent) :
    stateAt next position = stateAt tree position := by
  have other : position ≠ place := fun same => present (same ▸ makes.isFree)
  rw [makes.after, Function.update_of_ne other]

theorem keeps (makes : MakesDirectory tree next place) (position : Position)
    (isDirectory : stateAt tree position = .directory) : stateAt next position = .directory := by
  rw [makes.kept (by simp [isDirectory]), isDirectory]

end MakesDirectory

theorem makesDirectory_of_ok {tree next : FileTree} (plain : Plain tree) {path : String}
    (made : makeDirectory tree path = .ok next) :
    ∃ position, MakesDirectory tree next position ∧
      directoryAt? next [] (names path) = some position := by
  unfold makeDirectory at made
  cases noError : pathError? path with
  | some error =>
      rw [noError] at made
      cases made
  | none =>
      rw [noError] at made
      simp only [linkLimit, resolveFrom] at made
      cases walked : walk tree false [] (names path) with
      | follow directory target rest =>
          exact absurd walked (walk_ne_follow plain false [] _ directory target rest)
      | done result =>
          rw [walked] at made
          cases result with
          | error error => cases made
          | ok target =>
              cases target with
              | present position entry => cases made
              | absent directory name =>
                  cases made
                  obtain ⟨isFree, front, parts, reached, last⟩ := walk_absent walked
                  have makes : MakesDirectory tree _ (directory ++ [name]) :=
                    ⟨isFree, rfl, stateAt_set tree directory name _
                      (stateAt_directoryAt? plain.root reached)
                      (isLeaf_at? (by simp [isFree])) isLeaf_emptyDirectory⟩
                  refine ⟨directory ++ [name], makes, ?_⟩
                  rw [parts, directoryAt?_append, directoryAt?_mono makes.keeps reached,
                    Option.bind_some, directoryAt?_cons, last _ makes.isThere]
                  rfl

/-! ### All missing directories -/

/-- Some of the steps of a path lead from the root to the position. -/
def OnTheWay (path : List String) (tree : FileTree) (position : Position) : Prop :=
  ∃ front, front <+: path ∧ directoryAt? tree [] front = some position

/-- A tree after directories were made along a path. -/
structure Grows (path : List String) (tree next : FileTree) : Prop where
  plain : Plain next
  kept : ∀ position, stateAt tree position ≠ .absent →
    stateAt next position = stateAt tree position
  made : ∀ position, stateAt next position ≠ stateAt tree position → OnTheWay path next position

theorem Grows.refl (path : List String) {tree : FileTree} (plain : Plain tree) :
    Grows path tree tree := ⟨plain, fun _ _ => rfl, fun _ changed => absurd rfl changed⟩

theorem Grows.makeDirectory {tree mid next : FileTree} {path : List String} {ancestor : String}
    (grows : Grows path tree mid) (above : names ancestor <+: path)
    (made : makeDirectory mid ancestor = .ok next) : Grows path tree next := by
  obtain ⟨place, makes, reached⟩ := makesDirectory_of_ok grows.plain made
  refine ⟨⟨makes.keeps [] grows.plain.root, ?_⟩, ?_, ?_⟩
  · intro position target
    rw [makes.after]
    by_cases here : position = place
    · rw [here, Function.update_self]
      simp
    · rw [Function.update_of_ne here]
      exact grows.plain.noLinks position target
  · intro position present
    have same := grows.kept position present
    rw [makes.kept (same ▸ present), same]
  · intro position changed
    by_cases here : position = place
    · exact ⟨names ancestor, above, here ▸ reached⟩
    · rw [makes.after, Function.update_of_ne here] at changed
      obtain ⟨front, part, before⟩ := grows.made position changed
      exact ⟨front, part, directoryAt?_mono makes.keeps before⟩

/-- Without steps to a parent, directories come along the names of the path only. -/
theorem Grows.elsewhere {tree next : FileTree} {path : List String} (grows : Grows path tree next)
    (noParents : ".." ∉ path) {position : Position} (off : ¬ position <+: straight path) :
    stateAt next position = stateAt tree position := by
  by_contra changed
  obtain ⟨front, part, reached⟩ := grows.made position changed
  apply off
  rw [directoryAt?_straight (fun member => noParents (part.subset member)) reached,
    List.nil_append]
  exact part.filter _

theorem Disk.makeDirectory_ok {disk : Disk} {tree next : FileTree} {path : String}
    (made : disk.makeDirectory tree path = .ok next) :
    Files.makeDirectory tree path = .ok next := by
  unfold Disk.makeDirectory at made
  cases fault : disk.makeFault? tree path with
  | some fault =>
      rw [fault] at made
      cases made
  | none =>
      rw [fault] at made
      exact made

/--
What holds of a tree and is kept by making one directory on the way along a path holds
once all of them are made.
-/
theorem Disk.makeDirectoriesFrom_keeps (disk : Disk) {path : List String}
    {holds : FileTree → Prop}
    (step : ∀ ancestor mid next, names ancestor <+: path → holds mid →
      Files.makeDirectory mid ancestor = .ok next → holds next)
    {ancestor : String} (above : names ancestor <+: path) {tree : FileTree} (start : holds tree)
    (depth : Nat) : holds (disk.makeDirectoriesFrom tree ancestor depth).1 := by
  have ensure {place : String} (on : names place <+: path) {mid : FileTree} (before : holds mid) :
      holds (disk.ensureDirectory mid place).1 := by
    unfold Disk.ensureDirectory
    cases made : disk.makeDirectory mid place with
    | error error => exact before
    | ok next => exact step place mid next on before (Disk.makeDirectory_ok made)
  induction depth generalizing ancestor with
  | zero => exact start
  | succ depth ih =>
      unfold Disk.makeDirectoriesFrom
      by_cases here : ancestor = ""
      · rw [if_pos here]
        exact start
      · rw [if_neg here]
        have parents := ih ((names_parent_isPrefix ancestor).trans above)
        cases made : disk.makeDirectory tree ancestor with
        | ok next => exact ensure above start
        | error error =>
            cases error with
            | notFound =>
                simp only
                cases higher : disk.makeDirectoriesFrom tree (parent ancestor) depth with
                | mk next result =>
                    rw [higher] at parents
                    cases result with
                    | ok done => exact ensure above parents
                    | error error => exact parents
            | _ => exact ensure above start

theorem Disk.makeDirectories_keeps (disk : Disk) {path : String} {holds : FileTree → Prop}
    (step : ∀ ancestor mid next, names ancestor <+: names path → holds mid →
      Files.makeDirectory mid ancestor = .ok next → holds next)
    {tree : FileTree} (start : holds tree) : holds (disk.makeDirectories tree path).1 := by
  unfold Disk.makeDirectories
  by_cases absolute : isAbsolute path = true
  · rw [if_pos absolute]
    exact start
  · rw [if_neg absolute]
    exact disk.makeDirectoriesFrom_keeps step List.prefix_rfl start (path.length + 1)

theorem Disk.grows_makeDirectories (disk : Disk) {tree : FileTree} (plain : Plain tree)
    (path : String) : Grows (names path) tree (disk.makeDirectories tree path).1 :=
  disk.makeDirectories_keeps (fun _ _ _ above grows made => grows.makeDirectory above made)
    (.refl (names path) plain)

/-! ### Paths before and after -/

namespace Grows

variable {tree next : FileTree} {path : List String}

theorem directoryAt? (grows : Grows path tree next) {position directory : Position}
    {route : List String} (reached : directoryAt? tree position route = some directory) :
    Files.directoryAt? next position route = some directory :=
  directoryAt?_mono (fun position isDirectory => by
    rw [grows.kept position (by simp [isDirectory]), isDirectory]) reached

theorem position? (grows : Grows path tree next) {file : String} {position : Position}
    (found : position? tree file = some position) : Files.position? next file = some position := by
  unfold Files.position? at found ⊢
  cases noError : pathError? file with
  | some error =>
      rw [noError] at found
      cases found
  | none =>
      rw [noError] at found
      obtain ⟨directory, reached, here⟩ := Option.map_eq_some_iff.mp found
      simp only
      rw [grows.directoryAt? reached, ← here]
      rfl

/-- What is there before directories are made stays as it is. -/
theorem state_of_present (grows : Grows path tree next) (plain : Plain tree) {file : String}
    (ends : EndsInName file) (present : state tree file ≠ .absent) :
    state next file = state tree file := by
  obtain ⟨position, found⟩ := position?_of_state_ne_absent plain ends present
  rw [state_eq_stateAt plain ends found] at present ⊢
  rw [state_eq_stateAt grows.plain ends (grows.position? found), grows.kept position present]

/-- Below a path without steps to a parent everything stays as it is. -/
theorem state_join {base name : String} (grows : Grows (names base) tree next)
    (plain : Plain tree) (named : IsName name) (noParents : ".." ∉ names base) :
    state next (join base name) = state tree (join base name) := by
  have ends := endsInName_join base named
  by_cases present : state tree (join base name) = .absent
  · rw [present]
    by_contra appeared
    obtain ⟨position, found⟩ := position?_of_state_ne_absent grows.plain ends appeared
    rw [state_eq_stateAt grows.plain ends found] at appeared
    obtain ⟨noError, directory, reached, rfl⟩ := exists_of_position?_join named found
    have route := directoryAt?_straight noParents reached
    rw [List.nil_append] at route
    have off : ¬ directory ++ [name] <+: straight (names base) := by
      rw [← route]
      intro inside
      have bound := inside.length_le
      rw [List.length_append, List.length_singleton] at bound
      omega
    rw [grows.elsewhere noParents off] at appeared
    have before : Files.position? tree (join base name) = some (directory ++ [name]) := by
      rw [position?_join tree base named noError,
        directoryAt?_of_stateAt noParents reached (stateAt_front directory name [] appeared)]
      rfl
    rw [state_eq_stateAt plain ends before] at present
    exact appeared present
  · exact grows.state_of_present plain ends present

theorem state_kept {base name : String} (grows : Grows (names base) tree next)
    (plain : Plain tree) (named : IsName name)
    (kept : state tree (join base name) ≠ .absent ∨ ".." ∉ names base) :
    state next (join base name) = state tree (join base name) := by
  rcases kept with present | noParents
  · exact grows.state_of_present plain (endsInName_join base named) present
  · exact grows.state_join plain named noParents

end Grows

end Stanza.Files
