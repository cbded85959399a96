import Stanza.Files.Disk
import Stanza.Proofs.Files.Resolution

set_option autoImplicit false

/-!
What reading, writing, removing and renaming do in a tree without links, for paths that
end in a name: the state of the path is read or set, no directory comes or goes, and
nothing changes at other positions.
-/

namespace Stanza.Files

/-! ### The state of a path -/

/-- What a path stands for, which is nothing when it leads nowhere. -/
def state (tree : FileTree) (path : String) : State :=
  match lookup tree path with
  | .ok entry => entry.state
  | .error _ => .absent

theorem state_eq {tree : FileTree} (plain : Plain tree) {path : String} (ends : EndsInName path) :
    state tree path =
      match position? tree path with
      | some position => stateAt tree position
      | none => .absent := by
  have led := leads_resolve plain ends true
  unfold state lookup
  generalize resolve tree true path = target at led
  cases led with
  | nowhere nothing => rw [nothing]
  | free found inDirectory isFree => simp only [found, isFree]
  | taken found inDirectory isEntry => simp only [found, isEntry]

theorem state_eq_stateAt {tree : FileTree} (plain : Plain tree) {path : String}
    (ends : EndsInName path) {position : Position} (found : position? tree path = some position) :
    state tree path = stateAt tree position := by
  rw [state_eq plain ends, found]

theorem position?_of_state_ne_absent {tree : FileTree} (plain : Plain tree) {path : String}
    (ends : EndsInName path) (present : state tree path ≠ .absent) :
    ∃ position, position? tree path = some position := by
  rw [state_eq plain ends] at present
  cases found : position? tree path with
  | none =>
      rw [found] at present
      exact absurd rfl present
  | some position => exact ⟨position, rfl⟩

theorem read_eq_ok_iff (tree : FileTree) (path : String) (contents : ByteArray) :
    read tree path = .ok contents ↔ state tree path = .file contents := by
  unfold read state
  cases lookup tree path with
  | error error => simp
  | ok entry => cases entry <;> simp [Entry.state]

theorem state_of_read_notFound {tree : FileTree} (plain : Plain tree) {path : String}
    (ends : EndsInName path) (failed : read tree path = .error .notFound) :
    state tree path = .absent := by
  have noLink (target : String) : state tree path ≠ .link target := by
    rw [state_eq plain ends]
    cases position? tree path with
    | none => simp
    | some position => exact plain.noLinks position target
  unfold state at noLink ⊢
  unfold read at failed
  cases found : lookup tree path with
  | error error => rfl
  | ok entry =>
      rw [found] at failed noLink
      cases entry with
      | file contents => cases failed
      | directory entries => cases failed
      | link target => exact absurd rfl (noLink target)

theorem read_of_pathError {tree : FileTree} {path : String} {error : FileError}
    (refused : pathError? path = some error) : read tree path = .error error := by
  unfold read lookup resolve
  rw [refused]

theorem pathError?_ne_notFound {path : String} (nonempty : path ≠ "")
    (relative : isAbsolute path = false) : pathError? path ≠ some .notFound := by
  unfold pathError?
  split_ifs <;> simp_all

/-! ### Trees that differ in files -/

def Apart (tree : FileTree) (left right : String) : Prop :=
  ∀ position, position? tree left = some position → position? tree right ≠ some position

theorem Apart.symm {tree : FileTree} {left right : String} (apart : Apart tree left right) :
    Apart tree right left :=
  fun position rightHere leftHere => apart position leftHere rightHere

/-- Nothing differs but files at certain paths, which may come, go or change. -/
structure FilesDiffer (paths : List String) (tree next : FileTree) : Prop where
  elsewhere : ∀ position, (∀ path ∈ paths, position? tree path ≠ some position) →
    stateAt next position = stateAt tree position
  directories : ∀ position,
    stateAt next position = .directory ↔ stateAt tree position = .directory
  links : ∀ position target, stateAt next position = .link target →
    stateAt tree position = .link target
  entries : ∀ position entry, tree.at? position = some entry →
    (∀ path ∈ paths, ∀ place, position? tree path = some place → ¬ position <+: place) →
    next.at? position = some entry

namespace FilesDiffer

variable {tree mid next : FileTree} {paths front back : List String}

theorem refl (paths : List String) (tree : FileTree) : FilesDiffer paths tree tree :=
  ⟨fun _ _ => rfl, fun _ => Iff.rfl, fun _ _ same => same, fun _ _ found _ => found⟩

theorem position?_eq (differ : FilesDiffer paths tree next) (path : String) :
    position? next path = position? tree path := position?_congr differ.directories path

theorem trans (first : FilesDiffer front tree mid) (second : FilesDiffer back mid next) :
    FilesDiffer (front ++ back) tree next := by
  refine ⟨?_, ?_, ?_, ?_⟩
  · intro position apart
    rw [second.elsewhere position, first.elsewhere position]
    · exact fun path member => apart path (List.mem_append_left back member)
    · intro path member
      rw [first.position?_eq]
      exact apart path (List.mem_append_right front member)
  · exact fun position => (second.directories position).trans (first.directories position)
  · exact fun position target later =>
      first.links position target (second.links position target later)
  · intro position entry found clear
    apply second.entries
    · exact first.entries position entry found
        fun path member => clear path (List.mem_append_left back member)
    · intro path member place here
      rw [first.position?_eq] at here
      exact clear path (List.mem_append_right front member) place here

theorem mono (differ : FilesDiffer front tree next) (more : front ⊆ back) :
    FilesDiffer back tree next := by
  refine ⟨?_, differ.directories, differ.links, ?_⟩
  · intro position apart
    exact differ.elsewhere position fun path member => apart path (more member)
  · intro position entry found clear
    exact differ.entries position entry found fun path member => clear path (more member)

theorem plain (differ : FilesDiffer paths tree next) (before : Plain tree) : Plain next := by
  refine ⟨(differ.directories []).mpr before.root, ?_⟩
  intro position target link
  exact before.noLinks position target (differ.links position target link)

theorem state_eq (differ : FilesDiffer paths tree next) (before : Plain tree) {path : String}
    (ends : EndsInName path)
    (apart : ∀ other ∈ paths, Apart tree path other) : state next path = state tree path := by
  rw [Files.state_eq before ends, Files.state_eq (differ.plain before) ends, differ.position?_eq]
  cases found : position? tree path with
  | none => rfl
  | some position =>
      exact differ.elsewhere position fun other member => apart other member position found

end FilesDiffer

/-! ### One file -/

def fileState : Option ByteArray → State
  | some contents => .file contents
  | none => .absent

/-- The file at a path is put, or taken away. -/
structure Puts (tree next : FileTree) (path : String) (position : Position)
    (contents : Option ByteArray) : Prop where
  found : position? tree path = some position
  before : stateAt tree position ≠ .directory
  after : stateAt next = Function.update (stateAt tree) position (fileState contents)
  entries : ∀ other, ¬ position <+: other → ¬ other <+: position →
    next.at? other = tree.at? other

namespace Puts

variable {tree next : FileTree} {path : String} {position : Position}
  {contents : Option ByteArray}

theorem filesDiffer (puts : Puts tree next path position contents) :
    FilesDiffer [path] tree next := by
  refine ⟨?_, ?_, ?_, ?_⟩
  · intro other apart
    have different : other ≠ position := by
      rintro rfl
      exact apart path List.mem_cons_self puts.found
    rw [puts.after, Function.update_of_ne different]
  · intro other
    rw [puts.after]
    by_cases here : other = position
    · rw [here, Function.update_self]
      refine ⟨?_, fun directory => absurd directory puts.before⟩
      intro directory
      cases contents <;> cases directory
    · rw [Function.update_of_ne here]
  · intro other target link
    rw [puts.after] at link
    by_cases here : other = position
    · rw [here, Function.update_self] at link
      cases contents <;> cases link
    · rwa [Function.update_of_ne here] at link
  · intro other entry found clear
    have notAbove := clear path List.mem_cons_self position puts.found
    rw [puts.entries other ?_ notAbove, found]
    -- Only a directory has an entry below it, and none is put at a directory.
    rintro ⟨rest, rfl⟩
    cases rest with
    | nil => exact notAbove (by simp)
    | cons name rest =>
        apply puts.before
        apply stateAt_front position name rest
        unfold stateAt
        rw [found]
        cases entry <;> simp [entryState, Entry.state]

theorem state_eq (puts : Puts tree next path position contents) (plain : Plain tree)
    (ends : EndsInName path) : state next path = fileState contents := by
  have found : position? next path = some position := by
    rw [puts.filesDiffer.position?_eq, puts.found]
  rw [state_eq_stateAt (puts.filesDiffer.plain plain) ends found, puts.after,
    Function.update_self]

end Puts

def fileEntry (contents : Option ByteArray) : Option Entry := contents.map .file

theorem puts_set {tree : FileTree} {path : String} {directory : Position} {name : String}
    (found : position? tree path = some (directory ++ [name]))
    (inDirectory : stateAt tree directory = .directory)
    (before : stateAt tree (directory ++ [name]) ≠ .directory) (contents : Option ByteArray) :
    Puts tree (tree.set (fileEntry contents) (directory ++ [name])) path (directory ++ [name])
      contents := by
  refine ⟨found, before, ?_, fun other => at?_set_of_apart _ tree⟩
  have newLeaf : IsLeaf (fileEntry contents) := by
    cases contents with
    | none => exact isLeaf_none
    | some contents => exact isLeaf_file contents
  rw [stateAt_set tree directory name _ inDirectory (isLeaf_at? before) newLeaf]
  cases contents <;> rfl

theorem puts_of_write {tree next : FileTree} (plain : Plain tree) {path : String}
    (ends : EndsInName path) {contents : ByteArray}
    (written : write tree path contents = .ok next) :
    ∃ position, Puts tree next path position (some contents) := by
  have led := leads_resolve plain ends true
  unfold write at written
  generalize resolve tree true path = target at led written
  cases led with
  | nowhere nothing => cases written
  | free found inDirectory isFree =>
      cases written
      exact ⟨_, puts_set found inDirectory (by simp [isFree]) (some contents)⟩
  | @taken directory name entry found inDirectory isEntry =>
      cases entry with
      | file old =>
          cases written
          exact ⟨_, puts_set found inDirectory (by simp [isEntry, Entry.state]) (some contents)⟩
      | directory entries => cases written
      | link target => cases written

theorem puts_of_removeFile {tree next : FileTree} (plain : Plain tree) {path : String}
    (ends : EndsInName path) (removed : removeFile tree path = .ok next) :
    ∃ position, Puts tree next path position none := by
  have led := leads_resolve plain ends false
  unfold removeFile at removed
  generalize resolve tree false path = target at led removed
  cases led with
  | nowhere nothing => cases removed
  | free found inDirectory isFree => cases removed
  | @taken directory name entry found inDirectory isEntry =>
      cases entry with
      | file old =>
          cases removed
          exact ⟨_, puts_set found inDirectory (by simp [isEntry, Entry.state]) none⟩
      | directory entries => cases removed
      | link target => exact absurd isEntry (plain.noLinks _ target)

/-- A path to a file leads to the entry of the file, in a directory. -/
theorem resolve_of_file {tree : FileTree} (plain : Plain tree) {path : String}
    (ends : EndsInName path) {contents : ByteArray} (file : state tree path = .file contents)
    (followLast : Bool) :
    ∃ directory name, resolve tree followLast path =
        .ok (.present (directory ++ [name]) (.file contents)) ∧
      position? tree path = some (directory ++ [name]) ∧
      stateAt tree directory = .directory ∧
      stateAt tree (directory ++ [name]) = .file contents := by
  rw [state_eq plain ends] at file
  have led := leads_resolve plain ends followLast
  generalize resolve tree followLast path = target at led
  cases led with
  | nowhere nothing =>
      rw [nothing] at file
      cases file
  | free found inDirectory isFree =>
      rw [found] at file
      cases isFree.symm.trans file
  | @taken directory name entry found inDirectory isEntry =>
      rw [found] at file
      have isFile : entry = .file contents := by
        have same := isEntry.symm.trans file
        cases entry <;> cases same
        rfl
      subst isFile
      exact ⟨directory, name, rfl, found, inDirectory, isEntry⟩

theorem removeFile_of_file {tree : FileTree} (plain : Plain tree) {path : String}
    (ends : EndsInName path) {contents : ByteArray} (file : state tree path = .file contents) :
    ∃ next, removeFile tree path = .ok next := by
  obtain ⟨directory, name, resolved, _⟩ := resolve_of_file plain ends file false
  unfold removeFile
  rw [resolved]
  exact ⟨_, rfl⟩

theorem puts_move {tree : FileTree} {source target : String} {origin place : Position}
    {originName placeName : String}
    (originFound : position? tree source = some (origin ++ [originName]))
    (originIn : stateAt tree origin = .directory)
    (originFile : stateAt tree (origin ++ [originName]) ≠ .directory)
    (placeFound : position? tree target = some (place ++ [placeName]))
    (placeIn : stateAt tree place = .directory)
    (placeFile : stateAt tree (place ++ [placeName]) ≠ .directory) (contents : ByteArray) :
    ∃ mid, Puts tree mid target (place ++ [placeName]) (some contents) ∧
      Puts mid ((tree.set (some (.file contents)) (place ++ [placeName])).set none
        (origin ++ [originName])) source (origin ++ [originName]) none := by
  have put := puts_set placeFound placeIn placeFile (some contents)
  have differ := put.filesDiffer
  refine ⟨_, put, puts_set ?_ ?_ ?_ none⟩
  · rw [differ.position?_eq, originFound]
  · exact (differ.directories origin).mpr originIn
  · exact fun directory => originFile ((differ.directories _).mp directory)

theorem rename_of_file {tree : FileTree} (plain : Plain tree) {source target : String}
    (sourceEnds : EndsInName source) (targetEnds : EndsInName target) {contents : ByteArray}
    (file : state tree source = .file contents) {place : Position}
    (found : position? tree target = some place) (apart : position? tree source ≠ some place)
    (noDirectory : state tree target ≠ .directory) :
    ∃ mid next origin, rename tree source target = .ok next ∧
      Puts tree mid target place (some contents) ∧ Puts mid next source origin none := by
  obtain ⟨origin, originName, resolved, sourceFound, inOrigin, isFile⟩ :=
    resolve_of_file plain sourceEnds file false
  rw [state_eq plain targetEnds] at noDirectory
  have led := leads_resolve plain targetEnds false
  unfold rename
  rw [resolved]
  rw [sourceFound] at apart
  generalize resolve tree false target = goal at led
  cases led with
  | nowhere nothing =>
      rw [nothing] at found
      cases found
  | @free placeIn placeName targetFound inPlace isFree =>
      cases found.symm.trans targetFound
      obtain ⟨mid, put, taken⟩ := puts_move sourceFound inOrigin (by simp [isFile]) targetFound
        inPlace (by simp [isFree]) contents
      have different : origin ++ [originName] ≠ placeIn ++ [placeName] :=
        fun same => apart (congrArg some same)
      exact ⟨mid, _, _, if_neg different, put, taken⟩
  | @taken placeIn placeName old targetFound inPlace isOld =>
      rw [targetFound] at noDirectory
      cases found.symm.trans targetFound
      obtain ⟨mid, put, taken⟩ := puts_move sourceFound inOrigin (by simp [isFile]) targetFound
        inPlace noDirectory contents
      have different : origin ++ [originName] ≠ placeIn ++ [placeName] :=
        fun same => apart (congrArg some same)
      cases old with
      | directory entries => exact absurd isOld noDirectory
      | link other => exact absurd isOld (plain.noLinks _ other)
      | file old => exact ⟨mid, _, _, if_neg different, put, taken⟩

/-! ### A disk with faults -/

theorem Disk.read_cases (disk : Disk) (tree : FileTree) (path : String) :
    disk.read tree path = Files.read tree path ∨
      ∃ fault, disk.read tree path = .error (.device fault) := by
  unfold Disk.read
  cases disk.readFault? tree path with
  | some fault => exact .inr ⟨fault, rfl⟩
  | none => exact .inl rfl

theorem Disk.read_ok {disk : Disk} {tree : FileTree} {path : String} {contents : ByteArray}
    (done : disk.read tree path = .ok contents) : Files.read tree path = .ok contents := by
  rcases disk.read_cases tree path with same | ⟨fault, failed⟩
  · exact same.symm.trans done
  · cases failed.symm.trans done

/-- A disk reports a missing file only when there is none. -/
theorem Disk.read_notFound {disk : Disk} {tree : FileTree} {path : String}
    (failed : disk.read tree path = .error .notFound) :
    Files.read tree path = .error .notFound := by
  rcases disk.read_cases tree path with same | ⟨fault, other⟩
  · exact same.symm.trans failed
  · cases other.symm.trans failed

theorem Disk.write_ok {disk : Disk} {tree next : FileTree} {path : String}
    {contents : ByteArray} (written : disk.write tree path contents = (next, .ok ())) :
    Files.write tree path contents = .ok next := by
  unfold Disk.write at written
  split at written
  · split at written
    · cases written
      assumption
    · cases written
  · cases written
  · split at written <;> cases written

/-- A failed write leaves the tree as it is, or a part of the file. -/
theorem Disk.write_error {disk : Disk} {tree next : FileTree} {path : String}
    {contents : ByteArray} {error : FileError}
    (failed : disk.write tree path contents = (next, .error error)) :
    next = tree ∨ ∃ stored, Files.write tree path stored = .ok next := by
  unfold Disk.write at failed
  split at failed
  · split at failed
    · cases failed
    · cases failed
      exact .inl rfl
  · cases failed
    exact .inl rfl
  · split at failed
    · cases failed
      exact .inr ⟨_, by assumption⟩
    · cases failed
      exact .inl rfl

end Stanza.Files
