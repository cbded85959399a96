import Stanza.Proofs.Text.Layout
import Stanza.Text.Interpolation

set_option autoImplicit false

/-!
Fragments are the texts from which well-laid texts are put together. A fragment may stand
wherever a given number of brackets is open, within a line or at its front; it closes what
it opens. Words and literals are fragments for every number of brackets.
-/

namespace Stanza.Text

open Cursor

/-! ### Places and fragments -/

/-- A place for a fragment: within a line outside quotes, or at the end of the spaces that
belong at the front of a line. -/
inductive Ready (brackets : List Bracket) : Cursor → Prop
  | inside (last : Char) : Ready brackets (.inside ⟨false, brackets⟩ last)
  | margin (blank : Bool) (last : Char) :
      Ready brackets (.margin brackets (2 * brackets.length) blank last)

/-- Reading a text ends outside quotes with the given brackets open, after a character that
is no opening bracket. -/
def Leads (cursor : Cursor) (text : String) (brackets : List Bracket) : Prop :=
  ∃ last, opening? last = none ∧ cursor.after text.toList = some (.inside ⟨false, brackets⟩ last)

/-- A text that may stand wherever `level` brackets are open. -/
def Fragment (level : Nat) (text : String) : Prop :=
  ∀ brackets cursor, brackets.length = level → Ready brackets cursor →
    Leads cursor text brackets

/-- A text that may follow a fragment on its line. -/
def Continues (level : Nat) (text : String) : Prop :=
  ∀ brackets last, brackets.length = level → opening? last = none →
    Leads (.inside ⟨false, brackets⟩ last) text brackets

/-- A text that may stand at the front of a line and brings its own spaces. -/
def Stands (level : Nat) (text : String) : Prop :=
  ∀ brackets blank last, brackets.length = level →
    Leads (.margin brackets 0 blank last) text brackets

variable {level : Nat} {left right text : String}

theorem Leads.append {cursor : Cursor} {brackets : List Bracket}
    (first : Leads cursor left brackets)
    (second : ∀ last, opening? last = none →
      Leads (.inside ⟨false, brackets⟩ last) right brackets) :
    Leads cursor (left ++ right) brackets := by
  obtain ⟨middle, noOpening, read⟩ := first
  obtain ⟨last, noOpeningLast, readLater⟩ := second middle noOpening
  refine ⟨last, noOpeningLast, ?_⟩
  rw [String.toList_append, after_append, read]
  exact readLater

theorem Fragment.continues (fragment : Fragment level text) : Continues level text :=
  fun brackets last deep _ => fragment brackets _ deep (.inside last)

theorem Fragment.append (first : Fragment level left) (second : Continues level right) :
    Fragment level (left ++ right) :=
  fun brackets cursor deep ready =>
    (first brackets cursor deep ready).append fun last => second brackets last deep

theorem Continues.append (first : Continues level left) (second : Continues level right) :
    Continues level (left ++ right) :=
  fun brackets last deep noOpening =>
    (first brackets last deep noOpening).append fun last => second brackets last deep

/-! ### Spaces -/

theorem after_margin_spaces (brackets : List Bracket) (spaces count : Nat) (blank : Bool)
    (last : Char) :
    (margin brackets spaces blank last).after (List.replicate count ' ') =
      some (margin brackets (spaces + count) blank last) := by
  induction count generalizing spaces with
  | zero => rfl
  | succ count ih =>
      refine (ih (spaces + 1)).trans ?_
      rw [Nat.add_assoc, Nat.add_comm 1]

theorem continues_spaces (level count : Nat) :
    Continues level (String.ofList (List.replicate count ' ')) := by
  intro brackets last _ noOpening
  rw [Leads, String.toList_ofList]
  induction count generalizing last with
  | zero => exact ⟨last, noOpening, rfl⟩
  | succ count ih => exact ih ' ' rfl

theorem Fragment.stands_of_spaces (fragment : Fragment level text) :
    Stands level (String.ofList (List.replicate (2 * level) ' ') ++ text) := by
  intro brackets blank last deep
  obtain ⟨final, noOpening, read⟩ :=
    fragment brackets (margin brackets (2 * level) blank last) deep (deep ▸ .margin blank last)
  refine ⟨final, noOpening, ?_⟩
  rw [String.toList_append, String.toList_ofList, after_append, after_margin_spaces, Nat.zero_add]
  exact read

theorem Stands.append (first : Stands level left) (second : Continues level right) :
    Stands level (left ++ right) :=
  fun brackets blank last deep =>
    (first brackets blank last deep).append fun final => second brackets final deep

/-! ### Words -/

/-- Neither a space nor a line end, quote or bracket. -/
def isWordChar (c : Char) : Bool :=
  c != ' ' && c != '\n' && c != '"' && opening? c == none && closing? c == none

def Plain (text : String) : Prop := ∀ c ∈ text.toList, isWordChar c = true

instance (text : String) : Decidable (Plain text) :=
  decidable_of_iff (text.toList.all isWordChar = true) List.all_eq_true

/-- Letters, digits and signs in a row. -/
def Word (text : String) : Prop := text ≠ "" ∧ Plain text

instance (text : String) : Decidable (Word text) :=
  inferInstanceAs (Decidable (text ≠ "" ∧ Plain text))

theorem isWordChar_iff {c : Char} :
    isWordChar c = true ↔
      c ≠ ' ' ∧ c ≠ '\n' ∧ c ≠ '"' ∧ opening? c = none ∧ closing? c = none := by
  simp [isWordChar, and_assoc]

theorem isWordChar_of_alphanum {c : Char} (named : c.isAlphanum ∨ c = '_' ∨ c = '-') :
    isWordChar c = true := by
  have other {d : Char} (plain : (d.isAlphanum || d == '_' || d == '-') = false) : c ≠ d := by
    rintro rfl
    simp_all
  refine isWordChar_iff.mpr ⟨other rfl, other rfl, other rfl, ?_, ?_⟩
  · rw [opening?, if_neg (other rfl), if_neg (other rfl)]
  · rw [closing?, if_neg (other rfl), if_neg (other rfl)]

theorem Plain.append (first : Plain left) (second : Plain right) : Plain (left ++ right) := by
  intro c member
  rw [String.toList_append, List.mem_append] at member
  exact member.elim (first c) (second c)

theorem Word.append (first : Word left) (second : Plain right) : Word (left ++ right) :=
  ⟨fun empty => first.1 (String.append_eq_empty_iff.mp empty).1, first.2.append second⟩

theorem Plain.append_word (first : Plain left) (second : Word right) : Word (left ++ right) :=
  ⟨fun empty => second.1 (String.append_eq_empty_iff.mp empty).2, first.append second.2⟩

theorem Ready.next_of_isWordChar {brackets : List Bracket} {cursor : Cursor} {c : Char}
    (ready : Ready brackets cursor) (plain : isWordChar c = true) :
    cursor.next c = some (.inside ⟨false, brackets⟩ c) := by
  obtain ⟨noSpace, noEnd, noQuote, noOpening, noClosing⟩ := isWordChar_iff.mp plain
  have same : Pending.next ⟨false, brackets⟩ c = some ⟨false, brackets⟩ :=
    Pending.next_of_plain noQuote noOpening noClosing
  cases ready with
  | inside last => rw [next, if_neg noEnd, same, Option.map_some]
  | margin blank last =>
      have column : depthOf brackets c = brackets.length := by
        rw [depthOf, noClosing]
        rfl
      rw [next, if_neg noEnd, if_neg noSpace, if_pos ⟨by rw [column], fun _ => noClosing⟩, same,
        Option.map_some]

theorem Word.fragment (word : Word text) (level : Nat) : Fragment level text := by
  intro brackets cursor _ ready
  obtain ⟨notEmpty, plain⟩ := word
  unfold Plain at plain
  obtain ⟨c, rest, split⟩ :=
    List.exists_cons_of_ne_nil (mt String.toList_eq_nil_iff.mp notEmpty)
  unfold Leads
  rw [split] at plain ⊢
  clear split notEmpty
  -- Every character of a word leads to a place where a word may start again.
  induction rest generalizing c cursor with
  | nil =>
      obtain ⟨_, _, _, noOpening, _⟩ := isWordChar_iff.mp (plain c (by simp))
      exact ⟨c, noOpening, by
        rw [after, List.foldlM_cons, ready.next_of_isWordChar (plain c (by simp))]; rfl⟩
  | cons d rest ih =>
      obtain ⟨last, noOpening, read⟩ :=
        ih _ (.inside c) d fun e member => plain e (List.mem_cons_of_mem c member)
      refine ⟨last, noOpening, ?_⟩
      rw [after, List.foldlM_cons, ready.next_of_isWordChar (plain c (by simp))]
      exact read

/-! ### Literals -/

/-- A text that neither ends the double quotes around it nor the line. -/
def Quotable (text : String) : Prop := '"' ∉ text.toList ∧ '\n' ∉ text.toList

theorem mem_escapeAfter_iff {previous : Option Char} {chars : List Char} {c : Char} :
    c ∈ escapeAfter previous chars ↔ c ∈ chars := by
  induction chars generalizing previous with
  | nil => rfl
  | cons first rest ih =>
      rw [escapeAfter]
      by_cases opens : first = '$' ∧ rest.head? = some '\x7b' ∧ previous ≠ some '$'
      · rw [if_pos opens, opens.1, List.mem_cons, List.mem_cons, List.mem_cons, ih,
          or_self_left]
      · rw [if_neg opens, List.mem_cons, List.mem_cons, ih]

theorem toList_literal (text : String) :
    (literal text).toList = '"' :: (escapeAfter none text.toList ++ ['"']) := by
  simp [literal, escapeInterpolation]

theorem after_quoted (brackets : List Bracket) (last : Char) {chars : List Char}
    (noQuote : '"' ∉ chars) (noEnd : '\n' ∉ chars) :
    ∃ final, (inside ⟨true, brackets⟩ last).after chars =
      some (inside ⟨true, brackets⟩ final) := by
  induction chars generalizing last with
  | nil => exact ⟨last, rfl⟩
  | cons c rest ih =>
      obtain ⟨noQuoteHere, noQuoteLater⟩ := List.ne_and_not_mem_of_not_mem_cons noQuote
      obtain ⟨noEndHere, noEndLater⟩ := List.ne_and_not_mem_of_not_mem_cons noEnd
      obtain ⟨final, read⟩ := ih c noQuoteLater noEndLater
      have stays : (inside ⟨true, brackets⟩ last).next c = some (inside ⟨true, brackets⟩ c) := by
        rw [next, if_neg noEndHere.symm, Pending.next, if_neg noQuoteHere.symm]
        rfl
      refine ⟨final, ?_⟩
      rw [after, List.foldlM_cons, stays]
      exact read

theorem Ready.next_quote {brackets : List Bracket} {cursor : Cursor}
    (ready : Ready brackets cursor) :
    cursor.next '"' = some (.inside ⟨true, brackets⟩ '"') := by
  cases ready with
  | inside last => rfl
  | margin blank last =>
      have column : depthOf brackets '"' = brackets.length := rfl
      rw [next, if_neg (by decide), if_neg (by decide), if_pos ⟨by rw [column], fun _ => rfl⟩]
      rfl

theorem Quotable.fragment (quotable : Quotable text) (level : Nat) :
    Fragment level (literal text) := by
  intro brackets cursor _ ready
  obtain ⟨final, read⟩ := after_quoted brackets '"' (mt mem_escapeAfter_iff.mp quotable.1)
    (mt mem_escapeAfter_iff.mp quotable.2)
  refine ⟨'"', rfl, ?_⟩
  rw [toList_literal, after_cons_eq_some_iff]
  exact ⟨_, ready.next_quote, after_append_eq_some_iff.mpr ⟨_, read, rfl⟩⟩

/-! ### Brackets -/

def Bracket.opener : Bracket → Char
  | .brace => '\x7b'
  | .square => '['

def Bracket.closer : Bracket → Char
  | .brace => '\x7d'
  | .square => ']'

theorem Ready.next_opener {brackets : List Bracket} {cursor : Cursor}
    (ready : Ready brackets cursor) (bracket : Bracket) :
    cursor.next bracket.opener =
      some (.inside ⟨false, bracket :: brackets⟩ bracket.opener) := by
  cases ready with
  | inside last => cases bracket <;> rfl
  | margin blank last =>
      have column : depthOf brackets bracket.opener = brackets.length := by
        cases bracket <;> rfl
      rw [next, if_neg (by cases bracket <;> decide), if_neg (by cases bracket <;> decide),
        if_pos ⟨by rw [column], fun _ => by cases bracket <;> rfl⟩]
      cases bracket <;> rfl

theorem next_closer (bracket : Bracket) (brackets : List Bracket) (last : Char) :
    (margin (bracket :: brackets) (2 * brackets.length) false last).next bracket.closer =
      some (inside ⟨false, brackets⟩ bracket.closer) := by
  have column : depthOf (bracket :: brackets) bracket.closer = brackets.length := by
    cases bracket <;> rfl
  rw [next, if_neg (by cases bracket <;> decide), if_neg (by cases bracket <;> decide),
    if_pos ⟨by rw [column], fun flagged => Bool.noConfusion flagged⟩]
  cases bracket <;> rfl

/-- Lines between two brackets are a fragment when they lead from behind the opening bracket
to the end of a line; the closing bracket has a line of its own. -/
theorem fragment_of_enclosed (bracket : Bracket) (inner : List Char)
    (textIs : text.toList = bracket.opener :: (inner ++
      '\n' :: (List.replicate (2 * level) ' ' ++ [bracket.closer])))
    (filled : ∀ brackets, brackets.length = level + 1 → ∃ last,
      (inside ⟨false, brackets⟩ bracket.opener).after inner =
        some (inside ⟨false, brackets⟩ last)) :
    Fragment level text := by
  intro brackets cursor deep ready
  obtain ⟨last, read⟩ := filled (bracket :: brackets) (by rw [List.length_cons, deep])
  have spaces := after_margin_spaces (bracket :: brackets) 0 (2 * level) false last
  rw [Nat.zero_add, ← deep] at spaces
  refine ⟨bracket.closer, by cases bracket <;> rfl, ?_⟩
  rw [textIs, after_cons_eq_some_iff]
  refine ⟨_, ready.next_opener bracket, after_append_eq_some_iff.mpr ⟨_, read, ?_⟩⟩
  rw [after_cons_eq_some_iff, ← deep]
  refine ⟨_, rfl, after_append_eq_some_iff.mpr ⟨_, spaces, ?_⟩⟩
  rw [after_cons_eq_some_iff]
  exact ⟨_, next_closer bracket brackets last, rfl⟩

/-! ### Lines below each other -/

theorem Stands.below (upper : Stands level left) (lower : Stands level right) :
    Stands level (left ++ "\n" ++ right) := by
  intro brackets blank last deep
  obtain ⟨middle, _, read⟩ := upper brackets blank last deep
  obtain ⟨final, noOpening, later⟩ := lower brackets false middle deep
  refine ⟨final, noOpening, ?_⟩
  rw [String.append_assoc, String.toList_append, after_append_eq_some_iff]
  refine ⟨_, read, ?_⟩
  rw [String.toList_append]
  exact after_cons_eq_some_iff.mpr ⟨_, rfl, later⟩

/-- A blank line may follow, because no line ends in an opening bracket. -/
theorem Stands.belowBlank (upper : Stands level left) (lower : Stands level right) :
    Stands level (left ++ "\n\n" ++ right) := by
  intro brackets blank last deep
  obtain ⟨middle, noOpeningMiddle, read⟩ := upper brackets blank last deep
  obtain ⟨final, noOpening, later⟩ := lower brackets true middle deep
  refine ⟨final, noOpening, ?_⟩
  rw [String.append_assoc, String.toList_append, after_append_eq_some_iff]
  refine ⟨_, read, ?_⟩
  have blankLine : (margin brackets 0 false middle).next '\n' =
      some (margin brackets 0 true middle) := if_pos ⟨rfl, rfl, noOpeningMiddle⟩
  rw [String.toList_append]
  exact after_cons_eq_some_iff.mpr ⟨_, rfl, after_cons_eq_some_iff.mpr ⟨_, blankLine, later⟩⟩

theorem Fragment.wellLaid (fragment : Fragment 0 text) : WellLaid text := by
  obtain ⟨last, _, read⟩ := fragment [] start rfl (.margin true ' ')
  exact wellLaid_of_accepts ⟨last, read⟩

end Stanza.Text
