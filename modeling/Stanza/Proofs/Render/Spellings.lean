import Mathlib.Data.Nat.Digits.Defs
import Stanza.Proofs.Decimal.Numerals
import Stanza.Proofs.Render.NumberWords

set_option autoImplicit false

/-!
Which strings spell a number. A string that does not is written `NaN`. Numerals with a mark for
their base, the infinities and decimal numerals do, each after white space at both ends is
dropped; so does nothing at all. One plus sign between a mark and its digits is let through.
-/

namespace Stanza

open Decimal

namespace Render

/-! ### Digits of a base -/

/-- The place of a character among the digits of base sixteen in small or in capital letters,
which is sixteen for every other character. -/
def place (c : Char) : Nat :=
  min ("0123456789abcdef".toList.idxOf c) ("0123456789ABCDEF".toList.idxOf c)

def hexDigits : List Char := "0123456789abcdefABCDEF".toList

theorem mem_hexDigits_of_isDigitOf {base : Nat} {c : Char} (digit : isDigitOf base c = true) :
    c ∈ hexDigits := by
  have ranges : (48 ≤ c.toNat ∧ c.toNat ≤ 57) ∨ (97 ≤ c.toNat ∧ c.toNat ≤ 102) ∨
      (65 ≤ c.toNat ∧ c.toNat ≤ 70) := by
    simp only [isDigitOf, Char.isDigit, Bool.and_eq_true, Bool.or_eq_true, decide_eq_true_eq,
      Char.le_def, UInt32.le_iff_toNat_le] at digit
    simpa [or_assoc] using digit.1
  have back : Char.ofNat c.toNat = c := Char.ofNat_toNat c
  generalize c.toNat = code at ranges back
  have listed : ∀ code < 103, (48 ≤ code ∧ code ≤ 57) ∨ (97 ≤ code ∧ code ≤ 102) ∨
      (65 ≤ code ∧ code ≤ 70) → Char.ofNat code ∈ hexDigits := by decide
  rw [← back]
  exact listed code (by omega) ranges

theorem mem_hexDigits_of_place {c : Char} (small : place c < 16) : c ∈ hexDigits := by
  rcases min_lt_iff.mp small with low | capital
  · have inside : c ∈ "0123456789abcdef".toList := List.idxOf_lt_length_iff.mp low
    exact (by decide : "0123456789abcdef".toList ⊆ hexDigits) inside
  · have inside : c ∈ "0123456789ABCDEF".toList := List.idxOf_lt_length_iff.mp capital
    exact (by decide : "0123456789ABCDEF".toList ⊆ hexDigits) inside

theorem digitValue_eq_place {c : Char} (digit : c ∈ hexDigits) : digitValue c = place c := by
  have each : hexDigits.all (fun c => digitValue c == place c) = true := by decide
  exact beq_iff_eq.mp (List.all_eq_true.mp each c digit)

theorem isDigitOf_iff {base : Nat} (bounded : base ≤ 16) (c : Char) :
    isDigitOf base c = true ↔ place c < base := by
  have lettered : hexDigits.all
      (fun c => c.isDigit || ('a' ≤ c && c ≤ 'f') || ('A' ≤ c && c ≤ 'F')) = true := by decide
  constructor
  · intro digit
    rw [← digitValue_eq_place (mem_hexDigits_of_isDigitOf digit)]
    simp only [isDigitOf, Bool.and_eq_true, decide_eq_true_eq] at digit
    exact digit.2
  · intro small
    have inside := mem_hexDigits_of_place (small.trans_le bounded)
    rw [isDigitOf, List.all_eq_true.mp lettered c inside, digitValue_eq_place inside]
    simpa using small

theorem natOfDigits_eq_ofDigits (base : Nat) {digits : List Char}
    (each : ∀ c ∈ digits, c ∈ hexDigits) :
    natOfDigits base digits = Nat.ofDigits base (digits.map place).reverse := by
  rw [Nat.ofDigits_eq_foldr, List.foldr_reverse, List.foldl_map, natOfDigits]
  refine List.foldl_ext _ _ 0 ?_
  intro number c member
  rw [digitValue_eq_place (each c member)]
  simp only [Nat.cast_id]
  ring

/-- Digits of a base for a number that fits a word of sixty-four bits. -/
structure BaseDigits (base : Nat) (digits : List Char) : Prop where
  some : digits ≠ []
  each : ∀ c ∈ digits, place c < base
  bounded : Nat.ofDigits base (digits.map place).reverse < 2 ^ 64

/-- What stands for a base after a zero. -/
def baseMarks : List (Char × Nat) :=
  [('x', 16), ('X', 16), ('o', 8), ('O', 8), ('b', 2), ('B', 2)]

theorem base_le_of_mem_baseMarks {mark : Char} {base : Nat} (marked : (mark, base) ∈ baseMarks) :
    base ≤ 16 := by
  have each : ∀ entry ∈ baseMarks, entry.2 ≤ 16 := by decide
  exact each (mark, base) marked

theorem radixOf?_eq_some_iff (mark : Char) (base : Nat) :
    radixOf? mark = some base ↔ (mark, base) ∈ baseMarks := by
  simp only [radixOf?, baseMarks, List.mem_cons, Prod.mk.injEq, List.not_mem_nil, or_false]
  split_ifs <;> grind

theorem base_unique {mark : Char} {base other : Nat} (isMark : (mark, base) ∈ baseMarks)
    (isOther : (mark, other) ∈ baseMarks) : base = other := by
  rw [← radixOf?_eq_some_iff] at isMark isOther
  exact Option.some.inj (isMark.symm.trans isOther)

theorem splitRadix?_eq_some_iff (chars : List Char) (base : Nat) (rest : List Char) :
    splitRadix? chars = some (base, rest) ↔
      ∃ mark, (mark, base) ∈ baseMarks ∧ chars = '0' :: mark :: rest := by
  simp only [← radixOf?_eq_some_iff]
  constructor
  · intro split
    rw [splitRadix?.eq_def] at split
    split at split
    · rename_i mark others
      obtain ⟨found, isBase, same⟩ := Option.map_eq_some_iff.mp split
      cases same
      exact ⟨mark, isBase, rfl⟩
    · cases split
  · rintro ⟨mark, isBase, rfl⟩
    rw [splitRadix?, isBase]
    rfl

theorem isSome_readRadix?_iff {base : Nat} (small : base ≤ 16) (chars : List Char) :
    (readRadix? base chars).isSome = true ↔
      BaseDigits base chars ∨ ∃ digits, chars = '+' :: digits ∧ BaseDigits base digits := by
  have plain (digits : List Char) :
      (digits ≠ [] ∧ digits.all (isDigitOf base) = true ∧
        natOfDigits base digits < twoTo 64) ↔ BaseDigits base digits := by
    have each : digits.all (isDigitOf base) = true ↔ ∀ c ∈ digits, place c < base := by
      simp only [List.all_eq_true, isDigitOf_iff small]
    have listed (placed : ∀ c ∈ digits, place c < base) : ∀ c ∈ digits, c ∈ hexDigits :=
      fun c member => mem_hexDigits_of_place ((placed c member).trans_le small)
    rw [each]
    constructor
    · rintro ⟨some, placed, bounded⟩
      rw [natOfDigits_eq_ofDigits base (listed placed)] at bounded
      exact ⟨some, placed, bounded⟩
    · rintro ⟨some, placed, bounded⟩
      rw [← natOfDigits_eq_ofDigits base (listed placed)] at bounded
      exact ⟨some, placed, bounded⟩
  have noPlus (digits : List Char) : ¬ BaseDigits base ('+' :: digits) := by
    intro digitsOf
    have tooFar : place '+' = 16 := by decide
    have near := digitsOf.each '+' List.mem_cons_self
    omega
  simp only [readRadix?]
  split
  · rename_i digits
    rw [Option.isSome_ite, plain]
    simp [noPlus]
  · rename_i noSign
    rw [Option.isSome_ite, plain]
    refine (or_iff_left ?_).symm
    rintro ⟨digits, rfl, _⟩
    exact noSign digits rfl

/-! ### Spellings -/

/-- Nothing, digits after the mark of their base, an infinity, or a decimal numeral. -/
inductive Spells : List Char → Prop
  | nothing : Spells []
  | marked {mark : Char} {base : Nat} {digits : List Char} (isMark : (mark, base) ∈ baseMarks)
      (digitsOf : BaseDigits base digits) : Spells ('0' :: mark :: digits)
  | infinity {sign : List Char} (signed : Sign sign) : Spells (sign ++ "Infinity".toList)
  | numeral {chars : List Char} (isNumeral : IsNumeral chars) : Spells chars

/-- Digits of a base with a plus sign between them and the mark of the base. -/
def PlusAfterMark (chars : List Char) : Prop :=
  ∃ mark base digits, (mark, base) ∈ baseMarks ∧ BaseDigits base digits ∧
    chars = '0' :: mark :: '+' :: digits

/-- A mark stands neither in a numeral nor second in an infinity. -/
theorem spells_marked_iff {mark : Char} {base : Nat} (isMark : (mark, base) ∈ baseMarks)
    (rest : List Char) : Spells ('0' :: mark :: rest) ↔ BaseDigits base rest := by
  constructor
  · intro spells
    generalize whole : '0' :: mark :: rest = chars at spells
    cases spells with
    | nothing => cases whole
    | marked isOther digitsOf =>
        cases whole
        rw [base_unique isMark isOther]
        exact digitsOf
    | infinity signed =>
        rcases signed with rfl | rfl | rfl <;> cases whole
    | numeral isNumeral =>
        subst whole
        have plain := isNumeral.isDigit_or_mem (c := mark) (by simp)
        have other : ∀ entry ∈ baseMarks,
            ¬ (entry.1.isDigit = true ∨ entry.1 ∈ ['+', '-', '.', 'e', 'E']) := by decide
        exact absurd plain (other (mark, base) isMark)
  · exact .marked isMark

theorem plusAfterMark_marked_iff {mark : Char} {base : Nat} (isMark : (mark, base) ∈ baseMarks)
    (rest : List Char) : PlusAfterMark ('0' :: mark :: rest) ↔
      ∃ digits, rest = '+' :: digits ∧ BaseDigits base digits := by
  constructor
  · rintro ⟨_, _, digits, isOther, digitsOf, whole⟩
    cases whole
    rw [base_unique isMark isOther]
    exact ⟨digits, rfl, digitsOf⟩
  · rintro ⟨digits, rfl, digitsOf⟩
    exact ⟨mark, base, digits, isMark, digitsOf, rfl⟩

/-! ### Results of reading -/

theorem ofRatio_ne_nan (negative : Bool) (dividend divisor : Nat) :
    Extended.ofRatio negative dividend divisor ≠ .nan := by
  simp only [Extended.ofRatio]
  split_ifs <;> simp

theorem numeral_value_ne_nan (numeral : Numeral) : numeral.value ≠ .nan := by
  simp only [Numeral.value, Extended.ofDecimal]
  split_ifs
  · simp
  · simp
  · simp
  · exact ofRatio_ne_nan _ _ _

theorem readNumber_marked {chars rest : List Char} {base : Nat}
    (split : splitRadix? chars = some (base, rest)) :
    readNumber chars ≠ .nan ↔ (readRadix? base rest).isSome = true := by
  rw [readNumber, split]
  dsimp only
  cases readRadix? base rest with
  | none => simp
  | some number => exact iff_of_true (ofRatio_ne_nan false number 1) rfl

theorem readNumber_unmarked {chars : List Char} (split : splitRadix? chars = none) :
    readNumber chars ≠ .nan ↔
      chars = [] ∨ (∃ sign, Sign sign ∧ chars = sign ++ "Infinity".toList) ∨ IsNumeral chars := by
  have infinities : (∃ sign, Sign sign ∧ chars = sign ++ "Infinity".toList) ↔
      (chars = "Infinity".toList ∨ chars = "+Infinity".toList) ∨ chars = "-Infinity".toList := by
    simp only [Sign, or_and_right, exists_or, exists_eq_left, or_assoc]
    exact Iff.rfl
  rw [readNumber, split, infinities, ← isSome_read?_iff_isNumeral]
  dsimp only
  split_ifs with empty infinite lowest
  · exact iff_of_true nofun (.inl empty)
  · exact iff_of_true nofun (.inr (.inl (.inl infinite)))
  · exact iff_of_true nofun (.inr (.inl (.inr lowest)))
  · rw [or_iff_right empty, or_iff_right (not_or_intro infinite lowest)]
    cases Numeral.read? chars with
    | none => simp
    | some numeral => simpa using numeral_value_ne_nan numeral

theorem readNumber_ne_nan_iff (chars : List Char) :
    readNumber chars ≠ .nan ↔ Spells chars ∨ PlusAfterMark chars := by
  cases split : splitRadix? chars with
  | some parts =>
      obtain ⟨base, rest⟩ := parts
      obtain ⟨mark, isMark, rfl⟩ := (splitRadix?_eq_some_iff chars base rest).mp split
      rw [readNumber_marked split, isSome_readRadix?_iff (base_le_of_mem_baseMarks isMark),
        spells_marked_iff isMark, plusAfterMark_marked_iff isMark]
  | none =>
      have unmarked {mark : Char} {base : Nat} {rest : List Char}
          (isMark : (mark, base) ∈ baseMarks) : chars ≠ '0' :: mark :: rest := by
        intro whole
        rw [(splitRadix?_eq_some_iff chars base rest).mpr ⟨mark, isMark, whole⟩] at split
        cases split
      rw [readNumber_unmarked split]
      constructor
      · rintro (rfl | ⟨sign, signed, rfl⟩ | isNumeral)
        · exact .inl .nothing
        · exact .inl (.infinity signed)
        · exact .inl (.numeral isNumeral)
      · rintro (spells | ⟨mark, base, digits, isMark, _, whole⟩)
        · cases spells with
          | nothing => exact .inl rfl
          | marked isMark _ => exact absurd rfl (unmarked isMark)
          | infinity signed => exact .inr (.inl ⟨_, signed, rfl⟩)
          | numeral isNumeral => exact .inr (.inr isNumeral)
        · exact absurd whole (unmarked isMark)

/-! ### Texts of numbers -/

def hasDigit (text : String) : Bool := text.toList.any Char.isDigit

theorem hasDigit_append (text rest : String) :
    hasDigit (text ++ rest) = (hasDigit text || hasDigit rest) := by
  rw [hasDigit, String.toList_append, List.any_append]
  rfl

theorem hasDigit_ofList {digits : List Char} (some : digits ≠ [])
    (each : ∀ c ∈ digits, c.isDigit = true) : hasDigit (String.ofList digits) = true := by
  obtain ⟨c, others, rfl⟩ := List.exists_cons_of_ne_nil some
  rw [hasDigit, String.toList_ofList, List.any_cons, each c List.mem_cons_self, Bool.true_or]

theorem hasDigit_positional (decimal : Scientific) :
    hasDigit (decimal.positional "") = true := by
  have digit : ∀ c ∈ Nat.toDigits 10 decimal.digits, c.isDigit = true :=
    fun _ => isDigit_of_mem_toDigits
  unfold Scientific.positional
  dsimp only
  split
  · rw [hasDigit_append, hasDigit_ofList (by simp) ?_, Bool.true_or]
    intro c member
    exact (List.mem_append.mp member).elim (digit c) isDigit_of_mem_zeros
  · split
    · rename_i inside
      have whole : (Nat.toDigits 10 decimal.digits).take
          ((Nat.toDigits 10 decimal.digits).length - (-decimal.exponent).toNat) ≠ [] := by
        rw [Ne, List.take_eq_nil_iff, not_or]
        exact ⟨Nat.sub_ne_zero_of_lt inside, Nat.toDigits_ne_nil⟩
      rw [hasDigit_append, hasDigit_append,
        hasDigit_ofList whole fun c member => digit c (List.mem_of_mem_take member),
        Bool.true_or, Bool.true_or]
    · rw [hasDigit_append]
      rfl

theorem hasDigit_exponential (decimal : Scientific) : hasDigit decimal.exponential = true := by
  have order : hasDigit (toString decimal.order.natAbs) = true :=
    hasDigit_ofList Nat.toDigits_ne_nil fun _ => isDigit_of_mem_toDigits
  unfold Scientific.exponential
  rw [hasDigit_append, order, Bool.or_true]

theorem hasDigit_text (value : Binary64) : hasDigit (value.text numberStyle) = true := by
  rw [Binary64.text, hasDigit_append, Bool.or_eq_true]
  right
  unfold Scientific.text
  split
  · exact hasDigit_positional _
  · exact hasDigit_exponential _

theorem extendedText_eq_nan_iff (number : Extended) :
    extendedText number = "NaN" ↔ number = .nan := by
  cases number with
  | nan => exact iff_of_true rfl rfl
  | infinite negative => cases negative <;> decide
  | finite value =>
      refine iff_of_false ?_ nofun
      intro same
      have digit := hasDigit_text value
      rw [← extendedText, same] at digit
      cases digit

/-! ### Strings as numbers -/

/--
A string is written as a number exactly when, without the white space around it, it spells one or
has a plus sign after the mark of its base.
-/
theorem string_numberText_ne_nan_iff (text : String) :
    numberText (.string text) ≠ "NaN" ↔
      Spells (Text.trimChars text.toList) ∨ PlusAfterMark (Text.trimChars text.toList) := by
  rw [numberText, Ne, extendedText_eq_nan_iff, ← readNumber_ne_nan_iff]

/-- The plus sign is no part of the grammar, yet the text is read as the number without it. -/
theorem plus_after_mark_is_number : numberText (.string "0x+1F") = "31" ∧
    ¬ (numberText (.string "0x+1F") ≠ "NaN" ↔ Spells (Text.trimChars "0x+1F".toList)) := by
  have noDigits : ¬ Spells (Text.trimChars "0x+1F".toList) := by
    rw [show Text.trimChars "0x+1F".toList = '0' :: 'x' :: ['+', '1', 'F'] by decide,
      spells_marked_iff (by decide : ('x', 16) ∈ baseMarks)]
    intro digitsOf
    exact absurd (digitsOf.each '+' (by decide)) (by decide)
  refine ⟨by decide +kernel, fun same => noDigits (same.mp ?_)⟩
  decide +kernel

end Render
end Stanza
