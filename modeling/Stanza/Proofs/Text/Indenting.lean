import Mathlib.Data.List.Forall2
import Stanza.Proofs.Text.Fragments

set_option autoImplicit false

/-!
Texts moved to the right. Spaces go after every line end that no other line end follows, so the
first line stays where it is and blank lines stay empty. Two parts of a text move independently
of each other as long as what follows the first of them does not matter to it.
-/

namespace Stanza.Text

/-! ### Moving a text -/

/-- Puts spaces after every line end that is not directly followed by another one. -/
def indentAfterEnds (spaces : Nat) : List Char → List Char
  | [] => []
  | c :: rest =>
      if c = '\n' ∧ rest.head? ≠ some '\n' then
        c :: (List.replicate spaces ' ' ++ indentAfterEnds spaces rest)
      else c :: indentAfterEnds spaces rest

def indentLines (spaces : Nat) (text : String) : String :=
  String.ofList (indentAfterEnds spaces text.toList)

/-- Whatever follows, moving by so many spaces turns the one text into the other. -/
def Shifts (spaces : Nat) (text moved : String) : Prop :=
  ∀ rest, indentAfterEnds spaces (text.toList ++ rest) =
    moved.toList ++ indentAfterEnds spaces rest

/-- The same for a line that stands below another one. -/
def ShiftsBelow (spaces : Nat) (line moved : String) : Prop :=
  Shifts spaces ("\n" ++ line) ("\n" ++ moved)

variable {spaces : Nat} {text moved left right leftMoved rightMoved : String}

theorem Shifts.indentLines_eq (shifts : Shifts spaces text moved) :
    indentLines spaces text = moved := by
  have alone := shifts []
  rw [List.append_nil, indentAfterEnds, List.append_nil] at alone
  rw [indentLines, alone, String.ofList_toList]

theorem Shifts.append (first : Shifts spaces left leftMoved)
    (second : Shifts spaces right rightMoved) :
    Shifts spaces (left ++ right) (leftMoved ++ rightMoved) := by
  intro rest
  rw [String.toList_append, String.toList_append, List.append_assoc, List.append_assoc, first,
    second]

theorem shifts_join {parts others : List String}
    (each : List.Forall₂ (Shifts spaces) parts others) :
    Shifts spaces (String.join parts) (String.join others) := by
  induction each with
  | nil => exact fun rest => rfl
  | cons first _ ih =>
      rw [String.join_cons, String.join_cons]
      exact first.append ih

/-! ### Texts on one line -/

def OneLine (text : String) : Prop := '\n' ∉ text.toList

instance (text : String) : Decidable (OneLine text) :=
  inferInstanceAs (Decidable ('\n' ∉ text.toList))

theorem OneLine.append (first : OneLine left) (second : OneLine right) :
    OneLine (left ++ right) := by
  unfold OneLine
  rw [String.toList_append, List.mem_append]
  exact fun inside => inside.elim first second

theorem oneLine_spaces (count : Nat) : OneLine (String.ofList (List.replicate count ' ')) := by
  unfold OneLine
  rw [String.toList_ofList]
  intro inside
  cases List.eq_of_mem_replicate inside

theorem Word.oneLine (word : Word text) : OneLine text := fun inside =>
  absurd (word.2 '\n' inside) (by decide)

theorem oneLine_literal (single : OneLine text) : OneLine (literal text) := by
  unfold OneLine at single ⊢
  rw [toList_literal]
  simpa [mem_escapeAfter_iff] using single

theorem OneLine.shifts (single : OneLine text) (spaces : Nat) : Shifts spaces text text := by
  intro rest
  unfold OneLine at single
  generalize text.toList = chars at single ⊢
  induction chars with
  | nil => rfl
  | cons c others ih =>
      obtain ⟨noEnd, later⟩ := List.ne_and_not_mem_of_not_mem_cons single
      rw [List.cons_append, indentAfterEnds, if_neg fun ended => noEnd ended.1.symm, ih later]
      rfl

/-! ### Lines below each other -/

/-- A text that does not start with a line end. -/
def Begins (text : String) : Prop := ∃ c, text.toList.head? = some c ∧ c ≠ '\n'

theorem Begins.append (begins : Begins left) (right : String) : Begins (left ++ right) := by
  obtain ⟨c, isFirst, noEnd⟩ := begins
  refine ⟨c, ?_, noEnd⟩
  rw [String.toList_append, List.head?_append, isFirst]
  rfl

theorem Begins.after_spaces (begins : Begins text) (count : Nat) :
    Begins (String.ofList (List.replicate count ' ') ++ text) := by
  cases count with
  | zero => rwa [List.replicate_zero, String.ofList_nil, String.empty_append]
  | succ count =>
      apply Begins.append
      exact ⟨' ', by rw [String.toList_ofList, List.replicate_succ]; rfl, by decide⟩

/-- The spaces go to the front of a line that has one. -/
theorem Shifts.below (shifts : Shifts spaces text moved) (begins : Begins text) :
    ShiftsBelow spaces text (String.ofList (List.replicate spaces ' ') ++ moved) := by
  intro rest
  obtain ⟨c, isFirst, noEnd⟩ := begins
  have follows : (text.toList ++ rest).head? ≠ some '\n' := by
    rw [List.head?_append, isFirst]
    exact fun same => noEnd (Option.some.inj same)
  rw [String.toList_append, show "\n".toList = ['\n'] from rfl, List.singleton_append,
    List.cons_append, indentAfterEnds, if_pos ⟨rfl, follows⟩, shifts]
  simp

/-- Nothing goes between two line ends. -/
theorem ShiftsBelow.blank (below : ShiftsBelow spaces text moved) :
    Shifts spaces ("\n\n" ++ text) ("\n\n" ++ moved) := by
  intro rest
  have later := below rest
  rw [String.toList_append, String.toList_append, show "\n".toList = ['\n'] from rfl,
    List.singleton_append, List.singleton_append, List.cons_append] at later
  rw [String.toList_append, String.toList_append, show "\n\n".toList = ['\n', '\n'] from rfl]
  change indentAfterEnds spaces ('\n' :: '\n' :: (text.toList ++ rest)) = _
  rw [indentAfterEnds, if_neg fun ended => ended.2 rfl, later]
  rfl

end Stanza.Text
