import Mathlib.Data.List.Basic

set_option autoImplicit false

/-!
Texts with brackets that are laid out on lines: outside double quotes every bracket is
closed by one of its kind, every line that is not blank starts with two spaces for each
bracket around it, and blank lines stand alone between others, never next to the inner
side of a bracket. A cursor that reads a text once from the left finds all of this out.
-/

namespace Stanza.Text

/-! ### Brackets -/

inductive Bracket where
  | brace
  | square
deriving DecidableEq, Repr

def opening? (c : Char) : Option Bracket :=
  if c = '\x7b' then some .brace else if c = '[' then some .square else none

def closing? (c : Char) : Option Bracket :=
  if c = '\x7d' then some .brace else if c = ']' then some .square else none

/-- What the text before a position leaves open: a double quote or none, and brackets,
the innermost first. -/
structure Pending where
  quoted : Bool := false
  brackets : List Bracket := []
deriving DecidableEq, Repr

namespace Pending

/-- One character. Between double quotes brackets do not count; elsewhere a bracket has to
close the innermost open one. -/
def next (pending : Pending) (c : Char) : Option Pending :=
  if c = '"' then some { pending with quoted := !pending.quoted }
  else if pending.quoted then some pending
  else match opening? c, closing? c, pending.brackets with
    | some bracket, _, outer => some ⟨false, bracket :: outer⟩
    | none, some bracket, inner :: outer =>
        if inner = bracket then some ⟨false, outer⟩ else none
    | none, some _, [] => none
    | none, none, _ => some pending

def after (pending : Pending) (chars : List Char) : Option Pending :=
  chars.foldlM next pending

end Pending

/-! ### Lines -/

def lines (text : String) : List (List Char) := text.toList.splitOn '\n'

/-- Lines with the line end after each. -/
def ended (lines : List (List Char)) : List Char := lines.flatMap fun line => line ++ ['\n']

/-- How many brackets the line of a character stands within when it starts with it. A
closing bracket does not stand within the brackets that it closes. -/
def depthOf (brackets : List Bracket) (first : Char) : Nat :=
  if (closing? first).isSome then brackets.length - 1 else brackets.length

/-- The first character of a line that is not a space has two spaces before it for each
bracket around the line, no more and no fewer. -/
def StartsWith (brackets : List Bracket) (first : Char) (line : List Char) : Prop :=
  first ≠ ' ' ∧ ∃ rest, line = List.replicate (2 * depthOf brackets first) ' ' ++ first :: rest

structure WellLaid (text : String) : Prop where
  /-- The brackets outside double quotes nest, and nothing is open at the end. -/
  balanced : ({} : Pending).after text.toList = some {}
  /-- No line starts within quotes, and one that is not blank is indented by its depth. -/
  indented : ∀ before line after, lines text = before ++ line :: after → line ≠ [] →
    ∃ brackets first, ({} : Pending).after (ended before) = some ⟨false, brackets⟩ ∧
      StartsWith brackets first line
  /-- A blank line stands between two lines that are not blank. The one before does not end
  in an opening bracket, and the one after does not start with a closing one. -/
  separated : ∀ before after, lines text = before ++ [] :: after →
    ∃ front previous next rest last first,
      before = front ++ [previous] ∧ after = next :: rest ∧
        previous.getLast? = some last ∧ opening? last = none ∧
        (next.dropWhile (· = ' ')).head? = some first ∧ closing? first = none

/-! ### Cursors -/

/-- What a reader from the left has to know to judge the next character. -/
inductive Cursor where
  /-- After some spaces at the front of a line: the brackets open there, the number of
  spaces, whether the line before is blank, and the last character of the last line that
  is not. -/
  | margin (brackets : List Bracket) (spaces : Nat) (blank : Bool) (last : Char)
  /-- After the given character of a line, which is not one of the spaces at its front. -/
  | inside (pending : Pending) (last : Char)
deriving DecidableEq, Repr

namespace Cursor

def pending : Cursor → Pending
  | margin brackets _ _ _ => ⟨false, brackets⟩
  | inside pending _ => pending

/-- One character, if it keeps to the layout. -/
def next : Cursor → Char → Option Cursor
  | margin brackets spaces blank last, c =>
      if c = '\n' then
        if spaces = 0 ∧ blank = false ∧ opening? last = none then
          some (margin brackets 0 true last)
        else none
      else if c = ' ' then some (margin brackets (spaces + 1) blank last)
      else if spaces = 2 * depthOf brackets c ∧ (blank = true → closing? c = none) then
        (Pending.next ⟨false, brackets⟩ c).map fun pending => inside pending c
      else none
  | inside pending last, c =>
      if c = '\n' then
        if pending.quoted then none else some (margin pending.brackets 0 false last)
      else (pending.next c).map fun pending => inside pending c

def after (cursor : Cursor) (chars : List Char) : Option Cursor := chars.foldlM next cursor

/-- Before a text. No line end and no closing bracket may stand here. -/
def start : Cursor := margin [] 0 true ' '

theorem after_append (cursor : Cursor) (left right : List Char) :
    cursor.after (left ++ right) = (cursor.after left).bind fun middle => middle.after right :=
  List.foldlM_append

theorem after_append_eq_some_iff {cursor result : Cursor} {left right : List Char} :
    cursor.after (left ++ right) = some result ↔
      ∃ middle, cursor.after left = some middle ∧ middle.after right = some result := by
  rw [after_append, Option.bind_eq_some_iff]

theorem after_cons_eq_some_iff {cursor result : Cursor} {c : Char} {rest : List Char} :
    cursor.after (c :: rest) = some result ↔
      ∃ middle, cursor.next c = some middle ∧ middle.after rest = some result := by
  rw [after, List.foldlM_cons]
  exact Option.bind_eq_some_iff

/-! ### One character -/

theorem next_newline_eq_some {cursor result : Cursor} (read : cursor.next '\n' = some result) :
    (∃ brackets last, cursor = margin brackets 0 false last ∧ opening? last = none ∧
        result = margin brackets 0 true last) ∨
      ∃ brackets last, cursor = inside ⟨false, brackets⟩ last ∧
        result = margin brackets 0 false last := by
  cases cursor with
  | margin brackets spaces blank last =>
      rw [next, if_pos rfl] at read
      by_cases allowed : spaces = 0 ∧ blank = false ∧ opening? last = none
      · rw [if_pos allowed] at read
        obtain ⟨rfl, rfl, notOpening⟩ := allowed
        cases read
        exact .inl ⟨brackets, last, rfl, notOpening, rfl⟩
      · rw [if_neg allowed] at read
        cases read
  | inside pending last =>
      obtain ⟨quoted, brackets⟩ := pending
      cases quoted with
      | true => cases read
      | false =>
          cases read
          exact .inr ⟨brackets, last, rfl, rfl⟩

theorem next_inside_eq_some {pending : Pending} {last c : Char} {result : Cursor}
    (noEnd : c ≠ '\n') (read : (inside pending last).next c = some result) :
    ∃ later, pending.next c = some later ∧ result = inside later c := by
  rw [next, if_neg noEnd] at read
  obtain ⟨later, laterIs, same⟩ := Option.map_eq_some_iff.mp read
  exact ⟨later, laterIs, same.symm⟩

/-- What starts a line: a further space, or the first other character, in its column. -/
theorem next_margin_eq_some {brackets : List Bracket} {spaces : Nat} {blank : Bool}
    {last c : Char} {result : Cursor} (noEnd : c ≠ '\n')
    (read : (margin brackets spaces blank last).next c = some result) :
    (c = ' ' ∧ result = margin brackets (spaces + 1) blank last) ∨
      (c ≠ ' ' ∧ spaces = 2 * depthOf brackets c ∧ (blank = true → closing? c = none) ∧
        ∃ pending, Pending.next ⟨false, brackets⟩ c = some pending ∧
          result = inside pending c) := by
  rw [next, if_neg noEnd] at read
  by_cases space : c = ' '
  · rw [if_pos space] at read
    cases read
    exact .inl ⟨space, rfl⟩
  · rw [if_neg space] at read
    by_cases placed : spaces = 2 * depthOf brackets c ∧ (blank = true → closing? c = none)
    · rw [if_pos placed] at read
      obtain ⟨pending, pendingIs, same⟩ := Option.map_eq_some_iff.mp read
      exact .inr ⟨space, placed.1, placed.2, pending, pendingIs, same.symm⟩
    · rw [if_neg placed] at read
      cases read

end Cursor

theorem Pending.next_of_plain {pending : Pending} {c : Char} (noQuote : c ≠ '"')
    (noOpening : opening? c = none) (noClosing : closing? c = none) :
    pending.next c = some pending := by
  unfold next
  rw [if_neg noQuote, noOpening, noClosing]
  cases pending.quoted <;> rfl

namespace Cursor

/-- A cursor keeps count of what is open. -/
theorem pending_next {cursor result : Cursor} {c : Char} (read : cursor.next c = some result) :
    cursor.pending.next c = some result.pending := by
  by_cases isEnd : c = '\n'
  · subst isEnd
    have plain (pending : Pending) : pending.next '\n' = some pending :=
      Pending.next_of_plain (by decide) rfl rfl
    obtain ⟨_, _, rfl, _, rfl⟩ | ⟨_, _, rfl, rfl⟩ := next_newline_eq_some read
    · exact plain _
    · exact plain _
  · cases cursor with
    | margin brackets spaces blank last =>
        obtain ⟨rfl, rfl⟩ | ⟨_, _, _, pending, pendingIs, rfl⟩ := next_margin_eq_some isEnd read
        · exact Pending.next_of_plain (by decide) rfl rfl
        · exact pendingIs
    | inside pending last =>
        obtain ⟨later, laterIs, rfl⟩ := next_inside_eq_some isEnd read
        exact laterIs

theorem pending_after {cursor result : Cursor} {chars : List Char}
    (read : cursor.after chars = some result) :
    cursor.pending.after chars = some result.pending := by
  induction chars generalizing cursor with
  | nil =>
      cases read
      rfl
  | cons c rest ih =>
      obtain ⟨middle, first, later⟩ := after_cons_eq_some_iff.mp read
      rw [Pending.after, List.foldlM_cons, pending_next first]
      exact ih later

/-! ### One line -/

theorem after_inside_eq_some {pending : Pending} {last : Char} {chars : List Char}
    {result : Cursor} (noEnd : '\n' ∉ chars)
    (read : (inside pending last).after chars = some result) :
    ∃ later, result = inside later ((last :: chars).getLast (List.cons_ne_nil _ _)) := by
  induction chars generalizing pending last with
  | nil =>
      cases read
      exact ⟨pending, rfl⟩
  | cons c rest ih =>
      obtain ⟨middle, first, tail⟩ := after_cons_eq_some_iff.mp read
      obtain ⟨noEndHere, noEndLater⟩ := List.ne_and_not_mem_of_not_mem_cons noEnd
      obtain ⟨later, _, rfl⟩ := next_inside_eq_some (Ne.symm noEndHere) first
      obtain ⟨final, rfl⟩ := ih noEndLater tail
      exact ⟨final, by rw [List.getLast_cons (List.cons_ne_nil c rest)]⟩

/-- A line from its margin on: nothing but spaces, or a first character in its column. -/
theorem after_margin_eq_some {brackets : List Bracket} {spaces : Nat} {blank : Bool}
    {last : Char} {line : List Char} {result : Cursor} (noEnd : '\n' ∉ line)
    (read : (margin brackets spaces blank last).after line = some result) :
    (result = margin brackets (spaces + line.length) blank last) ∨
      ∃ count first rest pending final, line = List.replicate count ' ' ++ first :: rest ∧
        first ≠ ' ' ∧ spaces + count = 2 * depthOf brackets first ∧
        (blank = true → closing? first = none) ∧ line.getLast? = some final ∧
        result = inside pending final := by
  induction line generalizing spaces with
  | nil =>
      cases read
      exact .inl rfl
  | cons c rest ih =>
      obtain ⟨middle, first, tail⟩ := after_cons_eq_some_iff.mp read
      obtain ⟨noEndHere, noEndLater⟩ := List.ne_and_not_mem_of_not_mem_cons noEnd
      obtain ⟨rfl, rfl⟩ | ⟨noSpace, column, noClosing, pending, _, rfl⟩ :=
        next_margin_eq_some (Ne.symm noEndHere) first
      · obtain rfl | ⟨count, first, others, pending, final, rfl, noSpace, column, noClosing,
          isLast, rfl⟩ := ih noEndLater tail
        · refine .inl ?_
          rw [List.length_cons, Nat.add_assoc, Nat.add_comm 1]
        · refine .inr ⟨count + 1, first, others, pending, final, rfl, noSpace, by omega,
            noClosing, ?_, rfl⟩
          rw [List.getLast?_cons, isLast]
          rfl
      · obtain ⟨later, rfl⟩ := after_inside_eq_some noEndLater tail
        exact .inr ⟨0, c, rest, later, _, rfl, noSpace, column, noClosing,
          List.getLast?_eq_getLast_of_ne_nil _, rfl⟩

end Cursor

/-! ### All lines -/

theorem noEnd_of_mem_splitOn {chars line : List Char} (member : line ∈ chars.splitOn '\n') :
    '\n' ∉ line := by
  induction chars generalizing line with
  | nil =>
      rw [List.splitOn_nil, List.mem_singleton] at member
      rw [member]
      exact List.not_mem_nil
  | cons c rest ih =>
      rw [List.splitOn_eq_splitOnP, List.splitOnP_cons_eq_if_modifyHead,
        ← List.splitOn_eq_splitOnP] at member
      by_cases isEnd : c = '\n'
      · rw [if_pos (beq_iff_eq.mpr isEnd)] at member
        obtain rfl | later := List.mem_cons.mp member
        · exact List.not_mem_nil
        · exact ih later
      · rw [if_neg (by simpa using isEnd)] at member
        obtain ⟨first, others, split⟩ :=
          List.exists_cons_of_ne_nil (List.splitOn_ne_nil '\n' rest)
        rw [split, List.modifyHead_cons] at member
        obtain rfl | later := List.mem_cons.mp member
        · have noEndLater : '\n' ∉ first := ih (by simp [split])
          exact List.not_mem_cons_of_ne_of_not_mem (Ne.symm isEnd) noEndLater
        · exact ih (by simp [split, later])

theorem noEnd_of_mem_lines {text : String} {before after : List (List Char)}
    {line : List Char} (located : lines text = before ++ line :: after) : '\n' ∉ line :=
  noEnd_of_mem_splitOn (show line ∈ lines text by simp [located])

/-- The lines of a text, put together with an end after each but the last. -/
theorem toList_eq_of_lines {text : String} {before after : List (List Char)}
    {line : List Char} (located : lines text = before ++ line :: after) :
    text.toList = ended before ++ ['\n'].intercalate (line :: after) := by
  have joined : ['\n'].intercalate (lines text) = text.toList := List.intercalate_splitOn '\n'
  rw [← joined, located]
  clear located joined
  induction before with
  | nil => rfl
  | cons first rest ih =>
      rw [List.cons_append, List.intercalate_cons_of_ne_nil (by simp), ih]
      simp [ended]

namespace Cursor

/-- A text without offence against the layout, with nothing open at its end. -/
def Accepts (text : String) : Prop := ∃ last, start.after text.toList = some (inside {} last)

def AtFront (cursor : Cursor) : Prop :=
  ∃ brackets blank last, cursor = margin brackets 0 blank last

theorem atFront_of_next_newline {cursor result : Cursor}
    (read : cursor.next '\n' = some result) : result.AtFront := by
  obtain ⟨brackets, last, _, _, rfl⟩ | ⟨brackets, last, _, rfl⟩ := next_newline_eq_some read
  · exact ⟨brackets, true, last, rfl⟩
  · exact ⟨brackets, false, last, rfl⟩

theorem after_ended_cons {cursor result : Cursor} {line : List Char}
    {others : List (List Char)}
    (read : cursor.after (ended (line :: others)) = some result) :
    ∃ middle front, cursor.after line = some middle ∧ middle.next '\n' = some front ∧
      front.after (ended others) = some result := by
  rw [show ended (line :: others) = line ++ '\n' :: ended others by simp [ended]] at read
  obtain ⟨middle, here, tail⟩ := after_append_eq_some_iff.mp read
  obtain ⟨front, ends, later⟩ := after_cons_eq_some_iff.mp tail
  exact ⟨middle, front, here, ends, later⟩

theorem atFront_of_after_ended {cursor result : Cursor} {lines : List (List Char)}
    (atFront : cursor.AtFront) (read : cursor.after (ended lines) = some result) :
    result.AtFront := by
  induction lines generalizing cursor with
  | nil =>
      cases read
      exact atFront
  | cons line rest ih =>
      obtain ⟨_, front, _, ends, later⟩ := after_ended_cons read
      exact ih (atFront_of_next_newline ends) later

/-- A line is the last one, or its end is read before the next one. -/
theorem after_intercalate_cons {cursor result : Cursor} {line : List Char}
    {after : List (List Char)}
    (read : cursor.after (['\n'].intercalate (line :: after)) = some result) :
    (after = [] ∧ cursor.after line = some result) ∨
      ∃ next rest middle front, after = next :: rest ∧ cursor.after line = some middle ∧
        middle.next '\n' = some front ∧
        front.after (['\n'].intercalate (next :: rest)) = some result := by
  cases after with
  | nil =>
      rw [List.intercalate_singleton] at read
      exact .inl ⟨rfl, read⟩
  | cons next rest =>
      rw [List.intercalate_cons_cons, List.append_assoc] at read
      obtain ⟨middle, here, tail⟩ := after_append_eq_some_iff.mp read
      obtain ⟨front, ends, later⟩ := after_cons_eq_some_iff.mp tail
      exact .inr ⟨next, rest, middle, front, rfl, here, ends, later⟩

theorem front_of_lines {text : String} {last : Char} {before after : List (List Char)}
    {line : List Char} (accepted : start.after text.toList = some (inside {} last))
    (located : lines text = before ++ line :: after) :
    ∃ brackets blank final,
      start.after (ended before) = some (margin brackets 0 blank final) ∧
        (margin brackets 0 blank final).after (['\n'].intercalate (line :: after)) =
          some (inside {} last) := by
  rw [toList_eq_of_lines located] at accepted
  obtain ⟨middle, read, tail⟩ := after_append_eq_some_iff.mp accepted
  obtain ⟨brackets, blank, final, rfl⟩ := atFront_of_after_ended ⟨[], true, ' ', rfl⟩ read
  exact ⟨brackets, blank, final, read, tail⟩

theorem startsWith_of_after {brackets : List Bracket} {blank : Bool} {last : Char}
    {line : List Char} {result : Cursor} (noEnd : '\n' ∉ line)
    (read : (margin brackets 0 blank last).after line = some result)
    (left : result ≠ margin brackets line.length blank last) :
    ∃ first pending final, StartsWith brackets first line ∧
      (blank = true → closing? first = none) ∧ line.getLast? = some final ∧
        result = inside pending final := by
  obtain spaces | ⟨count, first, rest, pending, final, lineIs, noSpace, column, noClosing,
    isLast, resultIs⟩ := after_margin_eq_some noEnd read
  · rw [Nat.zero_add] at spaces
    exact absurd spaces left
  · rw [Nat.zero_add] at column
    subst column
    exact ⟨first, pending, final, ⟨noSpace, rest, lineIs⟩, noClosing, isLast, resultIs⟩

/-- A line that is not blank has a first character in its column, because neither a line
end nor the end of the text may follow spaces at the front of a line. -/
theorem startsWith_of_line {brackets : List Bracket} {blank : Bool} {last final : Char}
    {line : List Char} {after : List (List Char)} (noEnd : '\n' ∉ line) (visible : line ≠ [])
    (read : (margin brackets 0 blank last).after (['\n'].intercalate (line :: after)) =
      some (inside {} final)) :
    ∃ first, StartsWith brackets first line ∧ (blank = true → closing? first = none) := by
  obtain ⟨_, here⟩ | ⟨_, _, middle, _, _, here, ends, _⟩ := after_intercalate_cons read
  · obtain ⟨first, _, _, starts, noClosing, _⟩ := startsWith_of_after noEnd here (by simp)
    exact ⟨first, starts, noClosing⟩
  · have left : middle ≠ margin brackets line.length blank last := by
      rintro rfl
      obtain ⟨_, _, same, _⟩ | ⟨_, _, same, _⟩ := next_newline_eq_some ends
      · exact visible (List.length_eq_zero_iff.mp (margin.inj same).2.1)
      · cases same
    obtain ⟨first, _, _, starts, noClosing, _⟩ := startsWith_of_after noEnd here left
    exact ⟨first, starts, noClosing⟩

/-! ### Blank lines -/

/-- What a blank line takes: it is not the last line, the line before it is not blank and
does not end in an opening bracket. -/
theorem after_blank_line {brackets : List Bracket} {blank : Bool} {last final : Char}
    {after : List (List Char)}
    (read : (margin brackets 0 blank last).after (['\n'].intercalate ([] :: after)) =
      some (inside {} final)) :
    blank = false ∧ opening? last = none ∧ ∃ next rest, after = next :: rest ∧
      (margin brackets 0 true last).after (['\n'].intercalate (next :: rest)) =
        some (inside {} final) := by
  obtain ⟨_, here⟩ | ⟨next, rest, middle, front, afterIs, here, ends, later⟩ :=
    after_intercalate_cons read
  · cases here
  · cases here
    obtain ⟨_, _, same, noOpening, rfl⟩ | ⟨_, _, same, _⟩ := next_newline_eq_some ends
    · cases same
      exact ⟨rfl, noOpening, next, rest, afterIs, later⟩
    · cases same

/-- The line that leads to the front of a line behind a line that is not blank. -/
theorem line_before {before : List (List Char)} {brackets : List Bracket} {last : Char}
    (noEnd : ∀ line ∈ before, '\n' ∉ line)
    (read : start.after (ended before) = some (margin brackets 0 false last)) :
    ∃ front previous, before = front ++ [previous] ∧ previous.getLast? = some last := by
  obtain rfl | ⟨front, previous, rfl⟩ := List.eq_nil_or_concat before
  · cases read
  rw [List.concat_eq_append] at read noEnd ⊢
  rw [show ended (front ++ [previous]) = ended front ++ ended [previous] by simp [ended]]
    at read
  obtain ⟨middle, lead, tail⟩ := after_append_eq_some_iff.mp read
  obtain ⟨_, blank, final, rfl⟩ := atFront_of_after_ended ⟨[], true, ' ', rfl⟩ lead
  obtain ⟨_, _, here, ends, same⟩ := after_ended_cons tail
  cases same
  obtain ⟨_, _, _, _, same⟩ | ⟨_, _, rfl, same⟩ := next_newline_eq_some ends
  · cases same
  · cases same
    obtain ⟨_, _, _, _, _, isLast, same⟩ :=
      startsWith_of_after (noEnd previous (by simp)) here (by simp)
    cases same
    exact ⟨front, previous, rfl, isLast⟩

theorem head?_dropWhile_of_startsWith {brackets : List Bracket} {first : Char}
    {line : List Char} (starts : StartsWith brackets first line) :
    (line.dropWhile (· = ' ')).head? = some first := by
  obtain ⟨noSpace, rest, rfl⟩ := starts
  rw [List.dropWhile_append_of_pos (by simp), List.dropWhile_cons_of_neg (by simpa using noSpace)]
  rfl

theorem wellLaid_of_accepts {text : String} (accepted : Accepts text) : WellLaid text := by
  obtain ⟨last, accepted⟩ := accepted
  refine ⟨pending_after accepted, ?_, ?_⟩
  · intro before line after located visible
    obtain ⟨brackets, _, _, read, tail⟩ := front_of_lines accepted located
    obtain ⟨first, starts, _⟩ := startsWith_of_line (noEnd_of_mem_lines located) visible tail
    exact ⟨brackets, first, pending_after read, starts⟩
  · intro before after located
    obtain ⟨brackets, _, final, read, tail⟩ := front_of_lines accepted located
    obtain ⟨rfl, noOpening, next, rest, rfl, later⟩ := after_blank_line tail
    have noEnd : ∀ line ∈ lines text, '\n' ∉ line := fun _ member => noEnd_of_mem_splitOn member
    obtain ⟨front, previous, rfl, isLast⟩ :=
      line_before (fun line member => noEnd line (by simp [located, member])) read
    have nextVisible : next ≠ [] := by
      rintro rfl
      cases (after_blank_line later).1
    obtain ⟨first, starts, noClosing⟩ :=
      startsWith_of_line (noEnd next (by simp [located])) nextVisible later
    exact ⟨front, previous, next, rest, final, first, rfl, rfl, isLast, noOpening,
      head?_dropWhile_of_startsWith starts, noClosing rfl⟩

end Cursor
end Stanza.Text
