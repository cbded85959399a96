import Stanza.Proofs.Files.Paths
import Stanza.Proofs.Files.State

set_option autoImplicit false

/-!
Where paths lead in a tree without links. The steps before the last name lead to a
directory or nowhere, which depends on the directories of the tree only; the last name
then stands for a position in that directory, whether or not something is there.
-/

namespace Stanza.Files

/-- A tree of regular files and directories. -/
structure Plain (tree : FileTree) : Prop where
  root : stateAt tree [] = .directory
  noLinks : ∀ position target, stateAt tree position ≠ .link target

theorem plain_empty : Plain Entry.empty := by
  refine ⟨rfl, ?_⟩
  intro position target link
  cases position <;> cases link

def State.isDirectory : State → Bool
  | .directory => true
  | _ => false

theorem State.isDirectory_iff (state : State) : state.isDirectory = true ↔ state = .directory := by
  cases state <;> simp [State.isDirectory]

/-! ### Steps between directories -/

def directoryStep? (tree : FileTree) (position : Position) (step : String) : Option Position :=
  if step = "." then some position
  else if step = ".." then if position = [] then none else some position.dropLast
  else if nameLimit < step.utf8ByteSize then none
  else if (stateAt tree (position ++ [step])).isDirectory then some (position ++ [step])
  else none

def directoryAt? (tree : FileTree) (position : Position) (path : List String) : Option Position :=
  path.foldlM (directoryStep? tree) position

theorem directoryAt?_append (tree : FileTree) (position : Position) (front back : List String) :
    directoryAt? tree position (front ++ back) =
      (directoryAt? tree position front).bind fun directory => directoryAt? tree directory back :=
  List.foldlM_append

theorem directoryAt?_cons (tree : FileTree) (position : Position) (step : String)
    (rest : List String) :
    directoryAt? tree position (step :: rest) =
      (directoryStep? tree position step).bind fun next => directoryAt? tree next rest :=
  List.foldlM_cons

theorem directoryAt?_dots (tree : FileTree) (position : Position) {dots : List String}
    (dotted : ∀ step ∈ dots, step = ".") : directoryAt? tree position dots = some position := by
  induction dots with
  | nil => rfl
  | cons step rest ih =>
      have here : directoryStep? tree position step = some position :=
        if_pos (dotted step List.mem_cons_self)
      rw [directoryAt?_cons, here]
      exact ih fun step member => dotted step (List.mem_cons_of_mem _ member)

theorem stateAt_dropLast {tree : FileTree} {position : Position}
    (isDirectory : stateAt tree position = .directory) :
    stateAt tree position.dropLast = .directory := by
  rcases List.eq_nil_or_concat position with rfl | ⟨front, name, rfl⟩
  · exact isDirectory
  · rw [List.concat_eq_append] at isDirectory ⊢
    rw [List.dropLast_concat]
    apply stateAt_front front name []
    rw [isDirectory]
    simp

theorem stateAt_directoryStep? {tree : FileTree} {position next : Position} {step : String}
    (isDirectory : stateAt tree position = .directory)
    (reached : directoryStep? tree position step = some next) :
    stateAt tree next = .directory := by
  unfold directoryStep? at reached
  split_ifs at reached with dot dots root long below
  · cases reached
    exact isDirectory
  · cases reached
    exact stateAt_dropLast isDirectory
  · cases reached
    exact (State.isDirectory_iff _).mp below

theorem stateAt_directoryAt? {tree : FileTree} {position directory : Position}
    {path : List String} (isDirectory : stateAt tree position = .directory)
    (reached : directoryAt? tree position path = some directory) :
    stateAt tree directory = .directory := by
  induction path generalizing position with
  | nil =>
      cases reached
      exact isDirectory
  | cons step rest ih =>
      rw [directoryAt?_cons] at reached
      obtain ⟨next, first, later⟩ := Option.bind_eq_some_iff.mp reached
      exact ih (stateAt_directoryStep? isDirectory first) later

theorem directoryAt?_congr {tree next : FileTree}
    (same : ∀ position, stateAt next position = .directory ↔ stateAt tree position = .directory)
    (position : Position) (path : List String) :
    directoryAt? next position path = directoryAt? tree position path := by
  have step : directoryStep? next = directoryStep? tree := by
    funext position step
    have here : (stateAt next (position ++ [step])).isDirectory =
        (stateAt tree (position ++ [step])).isDirectory := by
      rw [Bool.eq_iff_iff, State.isDirectory_iff, State.isDirectory_iff]
      exact same _
    unfold directoryStep?
    rw [here]
  unfold directoryAt?
  rw [step]

/-! ### Walks -/

def targetAt (tree : FileTree) (directory : Position) (name : String) : Target :=
  match tree.at? (directory ++ [name]) with
  | some entry => .present (directory ++ [name]) entry
  | none => .absent directory name

theorem Plain.at?_ne_link {tree : FileTree} (plain : Plain tree) (position : Position)
    (target : String) : tree.at? position ≠ some (.link target) := by
  intro found
  apply plain.noLinks position target
  unfold stateAt
  rw [found]
  rfl

/-- Where no directory lies, only a last step leads anywhere. -/
theorem walk_blocked {tree : FileTree} (plain : Plain tree) (followLast : Bool)
    {position : Position} {step : String} {rest : List String} (further : rest ≠ [])
    (notDot : step ≠ ".") (notDots : step ≠ "..") (short : ¬ nameLimit < step.utf8ByteSize)
    (notDirectory : stateAt tree (position ++ [step]) ≠ .directory) :
    ∃ error, walk tree followLast position (step :: rest) = .done (.error error) := by
  rw [walk, if_neg notDot, if_neg notDots, if_neg short]
  cases found : tree.at? (position ++ [step]) with
  | none => exact ⟨.notFound, by simp only [found, if_neg further]⟩
  | some entry =>
      cases entry with
      | file contents => exact ⟨.notADirectory, by simp only [found, if_neg further]⟩
      | link target => exact absurd found (plain.at?_ne_link _ target)
      | directory entries =>
          unfold stateAt at notDirectory
          rw [found] at notDirectory
          exact absurd rfl notDirectory

theorem walk_step {tree : FileTree} (plain : Plain tree) (followLast : Bool)
    (position : Position) (step : String) {rest : List String} (further : rest ≠ []) :
    match directoryStep? tree position step with
    | some next => walk tree followLast position (step :: rest) = walk tree followLast next rest
    | none => ∃ error, walk tree followLast position (step :: rest) = .done (.error error) := by
  unfold directoryStep?
  by_cases dot : step = "."
  · rw [if_pos dot, walk, if_pos dot]
  · rw [if_neg dot]
    by_cases dots : step = ".."
    · rw [if_pos dots, walk, if_neg dot, if_pos dots]
      by_cases root : position = []
      · rw [if_pos root, if_pos root]
        exact ⟨_, rfl⟩
      · rw [if_neg root, if_neg root]
    · rw [if_neg dots]
      by_cases long : nameLimit < step.utf8ByteSize
      · rw [if_pos long, walk, if_neg dot, if_neg dots, if_pos long]
        exact ⟨_, rfl⟩
      · rw [if_neg long]
        by_cases below : stateAt tree (position ++ [step]) = .directory
        · obtain ⟨entries, found⟩ := at?_of_stateAt_directory below
          rw [if_pos ((State.isDirectory_iff _).mpr below), walk, if_neg dot, if_neg dots,
            if_neg long]
          simp only [found]
        · rw [if_neg (mt (State.isDirectory_iff _).mp below)]
          exact walk_blocked plain followLast further dot dots long below

theorem walk_front {tree : FileTree} (plain : Plain tree) (followLast : Bool)
    (position : Position) (front : List String) {rest : List String} (further : rest ≠ []) :
    match directoryAt? tree position front with
    | some directory =>
        walk tree followLast position (front ++ rest) = walk tree followLast directory rest
    | none => ∃ error, walk tree followLast position (front ++ rest) = .done (.error error) := by
  induction front generalizing position with
  | nil => rfl
  | cons step steps ih =>
      have first := walk_step plain followLast position step (by simp [further] : steps ++ rest ≠ [])
      rw [List.cons_append, directoryAt?_cons]
      cases reached : directoryStep? tree position step with
      | none =>
          rw [reached] at first
          exact first
      | some next =>
          rw [reached] at first
          simp only at first
          rw [first]
          exact ih next

theorem walk_name {tree : FileTree} (plain : Plain tree) (followLast : Bool)
    (directory : Position) {name : String} (named : IsName name) :
    walk tree followLast directory [name] = .done (.ok (targetAt tree directory name)) := by
  rw [walk, if_neg named.notDot, if_neg named.notDots, if_neg (Nat.not_lt.mpr named.short)]
  unfold targetAt
  cases found : tree.at? (directory ++ [name]) with
  | none => simp only [found, if_true]
  | some entry =>
      cases entry with
      | file contents => simp only [found, if_true]
      | link target => exact absurd found (plain.at?_ne_link _ target)
      | directory entries => simp only [found, walk]

/-! ### Paths that end in a name -/

/-- The position that a path stands for when its last step is a name. -/
def position? (tree : FileTree) (path : String) : Option Position :=
  match pathError? path with
  | some _ => none
  | none =>
      (directoryAt? tree [] (steps path).dropLast).map fun directory =>
        directory ++ (steps path).getLast?.toList

def EndsInName (path : String) : Prop :=
  ∃ front name, steps path = front ++ [name] ∧ IsName name

theorem endsInName_join (base : String) {name : String} (named : IsName name) :
    EndsInName (join base name) := ⟨names base, name, steps_join base named, named⟩

theorem position?_congr {tree next : FileTree}
    (same : ∀ position, stateAt next position = .directory ↔ stateAt tree position = .directory)
    (path : String) : position? next path = position? tree path := by
  unfold position?
  rw [directoryAt?_congr same]

theorem position?_join (tree : FileTree) (base : String) {name : String} (named : IsName name)
    (noError : pathError? (join base name) = none) :
    position? tree (join base name) =
      (directoryAt? tree [] (names base)).map fun directory => directory ++ [name] := by
  unfold position?
  rw [noError, steps_join base named]
  simp

theorem exists_of_position?_join {tree : FileTree} {base name : String} (named : IsName name)
    {position : Position} (found : position? tree (join base name) = some position) :
    pathError? (join base name) = none ∧
      ∃ directory, directoryAt? tree [] (names base) = some directory ∧
        position = directory ++ [name] := by
  cases noError : pathError? (join base name) with
  | some error =>
      unfold position? at found
      rw [noError] at found
      cases found
  | none =>
      rw [position?_join tree base named noError] at found
      obtain ⟨directory, reached, here⟩ := Option.map_eq_some_iff.mp found
      exact ⟨rfl, directory, reached, here.symm⟩

/-- Where a path that ends in a name leads: nowhere, to a free position or to an entry. -/
inductive Leads (tree : FileTree) (path : String) : Except FileError Target → Prop where
  | nowhere {error : FileError} (nothing : position? tree path = none) :
      Leads tree path (.error error)
  | free {directory : Position} {name : String}
      (found : position? tree path = some (directory ++ [name]))
      (inDirectory : stateAt tree directory = .directory)
      (isFree : stateAt tree (directory ++ [name]) = .absent) :
      Leads tree path (.ok (.absent directory name))
  | taken {directory : Position} {name : String} {entry : Entry}
      (found : position? tree path = some (directory ++ [name]))
      (inDirectory : stateAt tree directory = .directory)
      (isEntry : stateAt tree (directory ++ [name]) = entry.state) :
      Leads tree path (.ok (.present (directory ++ [name]) entry))

theorem leads_targetAt {tree : FileTree} {path : String} {directory : Position} {name : String}
    (found : position? tree path = some (directory ++ [name]))
    (inDirectory : stateAt tree directory = .directory) :
    Leads tree path (.ok (targetAt tree directory name)) := by
  unfold targetAt
  cases present : tree.at? (directory ++ [name]) with
  | none =>
      apply Leads.free found inDirectory
      unfold stateAt
      rw [present]
      rfl
  | some entry =>
      apply Leads.taken found inDirectory
      unfold stateAt
      rw [present]
      rfl

theorem leads_resolve {tree : FileTree} (plain : Plain tree) {path : String}
    (ends : EndsInName path) (followLast : Bool) :
    Leads tree path (resolve tree followLast path) := by
  obtain ⟨front, name, parts, named⟩ := ends
  unfold resolve
  cases noError : pathError? path with
  | some error =>
      apply Leads.nowhere
      unfold position?
      rw [noError]
  | none =>
      have walked := walk_front plain followLast [] front (by simp : [name] ≠ [])
      have placed : position? tree path =
          (directoryAt? tree [] front).map fun directory => directory ++ [name] := by
        unfold position?
        rw [noError, parts]
        simp
      simp only [linkLimit, resolveFrom, parts]
      cases reached : directoryAt? tree [] front with
      | none =>
          rw [reached] at walked placed
          obtain ⟨error, walked⟩ := walked
          rw [walked]
          exact Leads.nowhere placed
      | some directory =>
          rw [reached] at walked placed
          simp only at walked
          rw [walked, walk_name plain followLast directory named]
          exact leads_targetAt placed (stateAt_directoryAt? plain.root reached)

end Stanza.Files
