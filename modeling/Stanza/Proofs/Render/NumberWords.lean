import Stanza.Proofs.Text.Fragments
import Stanza.Render.Numeric

set_option autoImplicit false

/-!
Number texts are words: whatever value stands where a schema asks for a number, its text
has no space, line end, quote or bracket, and is not empty.
-/

namespace Stanza

open Text

/-! ### Digits -/

theorem Text.plain_of_digits {digits : List Char} (each : ∀ c ∈ digits, c.isDigit = true) :
    Plain (String.ofList digits) := by
  intro c member
  rw [String.toList_ofList] at member
  exact isWordChar_of_alphanum (.inl (by simp [Char.isAlphanum, each c member]))

theorem Text.word_of_digits {digits : List Char} (some : digits ≠ [])
    (each : ∀ c ∈ digits, c.isDigit = true) : Word (String.ofList digits) :=
  ⟨mt String.ofList_eq_empty_iff.mp some, plain_of_digits each⟩

namespace Decimal

theorem isDigit_of_mem_zeros {c : Char} {count : Nat} (member : c ∈ zeros count) :
    c.isDigit = true := by
  rw [List.eq_of_mem_replicate member]
  rfl

theorem isDigit_of_mem_toDigits {c : Char} {number : Nat} (member : c ∈ Nat.toDigits 10 number) :
    c.isDigit = true :=
  Nat.isDigit_of_mem_toDigits (by decide) (by decide) member

theorem word_natText (number : Nat) : Word (toString number) :=
  word_of_digits Nat.toDigits_ne_nil fun _ => isDigit_of_mem_toDigits

theorem word_intText (number : Int) : Word (toString number) := by
  cases number with
  | ofNat size => exact word_natText size
  | negSucc size =>
      have sign : Plain "-" := by decide
      exact sign.append_word (word_natText (size + 1))

/-! ### Numbers with a point or an exponent -/

theorem Scientific.word_positional (decimal : Scientific) : Word (decimal.positional "") := by
  have digit : ∀ c ∈ Nat.toDigits 10 decimal.digits, c.isDigit = true :=
    fun _ => isDigit_of_mem_toDigits
  unfold positional
  dsimp only
  split
  · refine Word.append (word_of_digits (by simp) ?_) (by decide)
    intro c member
    exact (List.mem_append.mp member).elim (digit c) isDigit_of_mem_zeros
  · split
    · refine Word.append (Plain.append_word (plain_of_digits ?_) (by decide)) (plain_of_digits ?_)
      · exact fun c member => digit c (List.mem_of_mem_take member)
      · exact fun c member => digit c (List.mem_of_mem_drop member)
    · refine Word.append (by decide) (plain_of_digits ?_)
      intro c member
      exact (List.mem_append.mp member).elim isDigit_of_mem_zeros (digit c)

/-- A point is no digit, but it is no space, line end, quote or bracket either. -/
theorem plain_mantissa {digit : Char} {others : List Char}
    (each : ∀ c ∈ digit :: others, c.isDigit = true) :
    Plain (String.ofList (digit :: '.' :: others)) := by
  have split : String.ofList (digit :: '.' :: others) =
      String.ofList [digit] ++ ("." ++ String.ofList others) := by
    simp
  rw [split]
  refine (plain_of_digits fun c member => ?_).append (Plain.append (by decide) ?_)
  · rw [List.mem_singleton.mp member]
    exact each digit List.mem_cons_self
  · exact plain_of_digits fun c member => each c (List.mem_cons_of_mem _ member)

theorem Scientific.word_exponential (decimal : Scientific) : Word decimal.exponential := by
  have digit : ∀ c ∈ Nat.toDigits 10 decimal.digits, c.isDigit = true :=
    fun _ => isDigit_of_mem_toDigits
  have sign : Plain (if decimal.order < 0 then "-" else "+") := by split <;> decide
  unfold exponential
  refine Word.append ((Plain.append_word ?_ (by decide)).append sign) (word_natText _).2
  split
  · decide
  · rename_i single
    exact plain_of_digits (single ▸ digit)
  · rename_i several
    exact plain_mantissa (several ▸ digit)

theorem Binary64.word_text (value : Binary64) : Word (value.text Render.numberStyle) := by
  have sign : Plain (if value.negative && (Render.numberStyle.signedZero || !value.isZero)
      then "-" else "") := by split <;> decide
  refine sign.append_word ?_
  unfold Scientific.text
  split
  · exact Scientific.word_positional _
  · exact Scientific.word_exponential _

end Decimal

namespace Render

theorem word_extendedText (number : Decimal.Extended) : Word (extendedText number) := by
  cases number with
  | nan => decide
  | infinite negative => cases negative <;> decide
  | finite value => exact value.word_text

theorem word_numberText (value : Value) : Word (numberText value) := by
  cases value with
  | null => decide
  | bool truth => cases truth <;> decide
  | number number =>
      cases number with
      | int value => exact Decimal.word_intText value
      | float value => exact value.word_text
  | string text => exact word_extendedText _
  | list items => exact (by decide : Word "NaN")
  | object members => exact (by decide : Word "NaN")

end Render
end Stanza
