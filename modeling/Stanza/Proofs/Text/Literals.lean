import Stanza.Proofs.Text.Escaping
import Stanza.Proofs.Text.Fragments

set_option autoImplicit false

/-!
Literals as they are read back. Between double quotes a backslash escapes the character after
it, and the literal ends at the first double quote that is not escaped. Writing a text as a
literal takes care of interpolations; the text itself has to take care of quotes, backslashes
and line ends. Two texts have one literal when they differ only in openings that one of them
has escaped already.
-/

namespace Stanza.Text

/-! ### Well-formed literals -/

/-- Whether the character after a text is escaped: by a backslash that is not escaped itself. -/
def escapesNext (pending : Bool) (chars : List Char) : Bool :=
  chars.foldl (fun pending c => !pending && c == '\\') pending

def Escaped (chars : List Char) (position : Nat) : Prop :=
  escapesNext false (chars.take position) = true

instance (chars : List Char) (position : Nat) : Decidable (Escaped chars position) :=
  inferInstanceAs (Decidable (_ = true))

/-- A literal on one line that its last character closes, and no other, and that has no
interpolation in it. -/
structure IsLiteral (chars : List Char) : Prop where
  twoQuotes : 2 ≤ chars.length
  delimited : ∀ position, (chars[position]? = some '"' ∧ ¬ Escaped chars position) ↔
    position = 0 ∨ position + 1 = chars.length
  oneLine : '\n' ∉ chars
  inert : ∀ position, ¬ Opens chars position

/-- What may stand between the quotes of a literal, interpolations apart. -/
structure FitsLiteral (chars : List Char) : Prop where
  oneLine : '\n' ∉ chars
  quotesEscaped : ∀ position, chars[position]? = some '"' → Escaped chars position
  endNotEscaped : ¬ Escaped chars chars.length

/-- Behind a backslash that escapes or not, no quote of a text ends a literal, and the quote
after the text does. -/
structure Contained (pending : Bool) (chars : List Char) : Prop where
  quotes : ∀ position, chars[position]? = some '"' →
    escapesNext pending (chars.take position) = true
  ended : escapesNext pending chars = false

theorem contained_nil_iff (pending : Bool) : Contained pending [] ↔ pending = false :=
  ⟨fun contained => contained.ended, fun ended => ⟨by simp, ended⟩⟩

theorem contained_cons_iff (pending : Bool) (c : Char) (rest : List Char) :
    Contained pending (c :: rest) ↔
      (c = '"' → pending = true) ∧ Contained (!pending && c == '\\') rest := by
  constructor
  · intro contained
    refine ⟨fun quote => contained.quotes 0 (by rw [quote]; rfl), ?_, contained.ended⟩
    intro position quote
    exact contained.quotes (position + 1) quote
  · rintro ⟨first, later⟩
    refine ⟨?_, later.ended⟩
    intro position quote
    cases position with
    | zero => exact first (Option.some.inj quote)
    | succ position => exact later.quotes position quote

instance decidableContained : (pending : Bool) → (chars : List Char) →
    Decidable (Contained pending chars)
  | pending, [] => decidable_of_iff _ (contained_nil_iff pending).symm
  | pending, c :: rest =>
      have := decidableContained (!pending && c == '\\') rest
      decidable_of_iff _ (contained_cons_iff pending c rest).symm

/-- An inserted dollar is no quote, and leaves nothing escaped that the dollar after it does. -/
theorem contained_escapeAfter_iff (pending : Bool) (previous : Option Char)
    (chars : List Char) : Contained pending (escapeAfter previous chars) ↔
      Contained pending chars := by
  induction chars generalizing pending previous with
  | nil => rfl
  | cons c rest ih =>
      rw [escapeAfter]
      by_cases opens : c = '$' ∧ rest.head? = some '\x7b' ∧ previous ≠ some '$'
      · rw [if_pos opens, opens.1, contained_cons_iff, contained_cons_iff, contained_cons_iff, ih]
        simp
      · rw [if_neg opens, contained_cons_iff, contained_cons_iff, ih]

theorem fitsLiteral_iff (chars : List Char) :
    FitsLiteral chars ↔ '\n' ∉ chars ∧ Contained false chars := by
  constructor
  · rintro ⟨oneLine, quotes, ended⟩
    refine ⟨oneLine, quotes, ?_⟩
    rwa [Escaped, List.take_length, Bool.not_eq_true] at ended
  · rintro ⟨oneLine, quotes, ended⟩
    refine ⟨oneLine, quotes, ?_⟩
    rwa [Escaped, List.take_length, Bool.not_eq_true]

instance (chars : List Char) : Decidable (FitsLiteral chars) :=
  decidable_of_iff _ (fitsLiteral_iff chars).symm

theorem delimited_iff (body : List Char) :
    (∀ position, (('"' :: (body ++ ['"']))[position]? = some '"' ∧
        ¬ Escaped ('"' :: (body ++ ['"'])) position) ↔
      position = 0 ∨ position + 1 = ('"' :: (body ++ ['"'])).length) ↔ Contained false body := by
  have inBody {position : Nat} (inside : position ≤ body.length) :
      Escaped ('"' :: (body ++ ['"'])) (position + 1) ↔
        escapesNext false (body.take position) = true := by
    rw [Escaped, List.take_succ_cons, List.take_append_of_le_length inside]
    rfl
  constructor
  · intro delimited
    constructor
    · intro position quote
      have inside : position < body.length := (List.getElem?_eq_some_iff.mp quote).1
      by_contra notEscaped
      have ends := (delimited (position + 1)).mp
        ⟨by rwa [List.getElem?_cons_succ, List.getElem?_append_left inside],
          fun escaped => notEscaped ((inBody inside.le).mp escaped)⟩
      simp only [List.length_cons, List.length_append, List.length_nil] at ends
      omega
    · have closing := ((delimited (body.length + 1)).mpr (.inr (by simp))).2
      rwa [inBody le_rfl, List.take_length, Bool.not_eq_true] at closing
  · intro contained position
    constructor
    · rintro ⟨quote, plain⟩
      cases position with
      | zero => exact .inl rfl
      | succ position =>
          have bound := (List.getElem?_eq_some_iff.mp quote).1
          simp only [List.length_cons, List.length_append, List.length_nil] at bound ⊢
          by_cases inside : position < body.length
          · rw [List.getElem?_cons_succ, List.getElem?_append_left inside] at quote
            exact absurd ((inBody inside.le).mpr (contained.quotes position quote)) plain
          · omega
    · rintro (rfl | last)
      · exact ⟨rfl, Bool.false_ne_true⟩
      · simp only [List.length_cons, List.length_append, List.length_nil, Nat.zero_add,
          Nat.add_right_cancel_iff] at last
        subst last
        refine ⟨by simp, ?_⟩
        rw [inBody le_rfl, List.take_length, contained.ended]
        exact Bool.false_ne_true

/-- A quote after a text changes nothing in how the text is escaped. -/
theorem escapeAfter_concat_quote (previous : Option Char) (chars : List Char) :
    escapeAfter previous (chars ++ ['"']) = escapeAfter previous chars ++ ['"'] := by
  induction chars generalizing previous with
  | nil => rfl
  | cons c rest ih =>
      have ahead : (rest ++ ['"']).head? = some '\x7b' ↔ rest.head? = some '\x7b' := by
        cases rest <;> simp
      rw [List.cons_append, escapeAfter, escapeAfter, ih]
      simp only [ahead]
      split <;> rfl

/-- Not even with its quotes does a literal open an interpolation. -/
theorem not_opens_literal (text : String) (position : Nat) :
    ¬ Opens (literal text).toList position := by
  have whole : (literal text).toList = escapeAfter none ('"' :: (text.toList ++ ['"'])) := by
    rw [toList_literal, escapeAfter, if_neg (by simp), escapeAfter_concat_quote,
      escapeAfter_of_ne_dollar (by decide : some '"' ≠ some '$')]
  rw [whole]
  exact not_opens_escape _ position

theorem isLiteral_literal_iff (text : String) :
    IsLiteral (literal text).toList ↔ FitsLiteral text.toList := by
  have inner := contained_escapeAfter_iff false none text.toList
  have sameLine : '\n' ∉ (literal text).toList ↔ '\n' ∉ text.toList := by
    rw [toList_literal]
    simp [mem_escapeAfter_iff]
  rw [fitsLiteral_iff, ← inner, ← delimited_iff, ← toList_literal, ← sameLine]
  constructor
  · intro isLiteral
    exact ⟨isLiteral.oneLine, isLiteral.delimited⟩
  · rintro ⟨oneLine, delimited⟩
    exact ⟨by rw [toList_literal]; simp, delimited, oneLine, not_opens_literal text⟩

/-! ### Texts with one literal -/

/--
After a dollar or another character, two texts that are the same but for openings which one of
them has escaped already: it has two dollars before the brace where the other has one.
-/
inductive EscapedAlike : (afterDollar : Bool) → List Char → List Char → Prop
  | nil (afterDollar : Bool) : EscapedAlike afterDollar [] []
  | cons {afterDollar : Bool} {c : Char} {left right : List Char}
      (rest : EscapedAlike (c == '$') left right) :
      EscapedAlike afterDollar (c :: left) (c :: right)
  | escapedRight {left right : List Char} (opens : left.head? = some '\x7b')
      (rest : EscapedAlike true left right) :
      EscapedAlike false ('$' :: left) ('$' :: '$' :: right)
  | escapedLeft {left right : List Char} (opens : right.head? = some '\x7b')
      (rest : EscapedAlike true left right) :
      EscapedAlike false ('$' :: '$' :: left) ('$' :: right)

theorem EscapedAlike.head?_eq {afterDollar : Bool} {left right : List Char}
    (alike : EscapedAlike afterDollar left right) : left.head? = right.head? := by
  cases alike <;> rfl

theorem escapeAfter_of_opens {previous : Option Char} {rest : List Char}
    (ahead : rest.head? = some '\x7b') (behind : previous ≠ some '$') :
    escapeAfter previous ('$' :: rest) = '$' :: '$' :: escapeAfter (some '$') rest := by
  rw [escapeAfter, if_pos ⟨rfl, ahead, behind⟩]

/-- Two dollars are kept: a dollar follows the first, and one comes before the second. -/
theorem escapeAfter_two_dollars (previous : Option Char) (rest : List Char) :
    escapeAfter previous ('$' :: '$' :: rest) =
      '$' :: '$' :: escapeAfter (some '$') rest := by
  rw [escapeAfter, if_neg (by simp), escapeAfter, if_neg (by simp)]

theorem EscapedAlike.escapeAfter_eq {afterDollar : Bool} {left right : List Char}
    (alike : EscapedAlike afterDollar left right) {previous : Option Char}
    (behind : (previous == some '$') = afterDollar) :
    escapeAfter previous left = escapeAfter previous right := by
  induction alike generalizing previous with
  | nil => rfl
  | @cons _ c left right rest ih =>
      rw [escapeAfter, escapeAfter, rest.head?_eq, ih rfl]
  | escapedRight opens _ ih =>
      rw [escapeAfter_of_opens opens (by simpa using behind), escapeAfter_two_dollars, ih rfl]
  | escapedLeft opens _ ih =>
      rw [escapeAfter_of_opens opens (by simpa using behind), escapeAfter_two_dollars, ih rfl]

/-- By induction on the first text; whether the next character opens an interpolation in
either of the two decides in which of four ways they go on. -/
theorem escapedAlike_of_escapeAfter_eq {previous : Option Char} {left right : List Char}
    (same : escapeAfter previous left = escapeAfter previous right) :
    EscapedAlike (previous == some '$') left right := by
  induction left generalizing previous right with
  | nil =>
      have noHead := head?_escapeAfter previous right
      rw [← same] at noHead
      rw [List.head?_eq_none_iff.mp noHead.symm]
      exact .nil _
  | cons c left ih =>
      have firstSame : right.head? = some c := by
        rw [← head?_escapeAfter previous right, ← same, head?_escapeAfter]
        rfl
      obtain ⟨right, rfl⟩ : ∃ rest, right = c :: rest := by
        cases right with
        | nil => cases firstSame
        | cons first rest => exact ⟨rest, by rw [Option.some.inj firstSame]⟩
      have notBehind (different : previous ≠ some '$') : (previous == some '$') = false := by
        simpa using different
      rw [escapeAfter, escapeAfter] at same
      by_cases opensLeft : c = '$' ∧ left.head? = some '\x7b' ∧ previous ≠ some '$'
      · obtain ⟨rfl, ahead, behind⟩ := opensLeft
        rw [if_pos ⟨rfl, ahead, behind⟩] at same
        by_cases opensRight : right.head? = some '\x7b'
        · rw [if_pos ⟨rfl, opensRight, behind⟩] at same
          exact .cons (ih (List.cons.inj (List.cons.inj same).2).2)
        · rw [if_neg fun opens => opensRight opens.2.1] at same
          have tail := (List.cons.inj same).2
          have second := head?_escapeAfter (some '$') right
          rw [← tail] at second
          cases right with
          | nil => cases second
          | cons d right =>
              cases Option.some.inj second
              rw [escapeAfter, if_neg (by simp)] at tail
              rw [notBehind behind]
              exact .escapedRight ahead (ih (List.cons.inj tail).2)
      · rw [if_neg opensLeft] at same
        by_cases opensRight : c = '$' ∧ right.head? = some '\x7b' ∧ previous ≠ some '$'
        · obtain ⟨rfl, ahead, behind⟩ := opensRight
          rw [if_pos ⟨rfl, ahead, behind⟩] at same
          have twice : escapeAfter (some '$') ('$' :: right) =
              '$' :: escapeAfter (some '$') right := by
            rw [escapeAfter, if_neg (by simp)]
          have rest := ih ((List.cons.inj same).2.trans twice.symm)
          rw [notBehind behind]
          cases rest with
          | cons later => exact .escapedLeft ahead later
        · rw [if_neg opensRight] at same
          exact .cons (ih (List.cons.inj same).2)

/-- Two texts have the same literal exactly when they differ in escaped openings only. -/
theorem literal_eq_literal_iff (left right : String) :
    literal left = literal right ↔ EscapedAlike false left.toList right.toList := by
  rw [← String.toList_inj, toList_literal, toList_literal, List.cons_inj_right,
    List.append_left_inj]
  exact ⟨fun same => escapedAlike_of_escapeAfter_eq same,
    fun alike => alike.escapeAfter_eq rfl⟩

/-- The characters of an escaped opening. -/
def escapedOpening : List Char := ['$', '$', '\x7b']

theorem isInfix_escapedOpening {rest : List Char} (opens : rest.head? = some '\x7b') :
    escapedOpening <:+: '$' :: '$' :: rest := by
  cases rest with
  | nil => cases opens
  | cons c rest =>
      cases Option.some.inj opens
      exact ⟨[], rest, rfl⟩

theorem EscapedAlike.eq_of_not_isInfix {afterDollar : Bool} {left right : List Char}
    (alike : EscapedAlike afterDollar left right) (noneLeft : ¬ escapedOpening <:+: left)
    (noneRight : ¬ escapedOpening <:+: right) : left = right := by
  induction alike with
  | nil => rfl
  | @cons _ c left right _ ih =>
      rw [ih (fun inside => noneLeft (inside.trans (List.suffix_cons c left).isInfix))
        fun inside => noneRight (inside.trans (List.suffix_cons c right).isInfix)]
  | escapedRight opens rest _ =>
      exact absurd (isInfix_escapedOpening (rest.head?_eq ▸ opens)) noneRight
  | escapedLeft opens rest _ =>
      exact absurd (isInfix_escapedOpening (rest.head?_eq ▸ opens)) noneLeft

end Stanza.Text
