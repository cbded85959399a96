import Mathlib.Data.List.TakeWhile
import Stanza.Decimal.Numeral

set_option autoImplicit false

/-!
The grammar of decimal numerals: an optional sign, digits with at most one point before, among
or after them, and an optional exponent that may have a sign of its own. Reading a numeral
succeeds on exactly these texts.
-/

namespace Stanza.Decimal

/-! ### Grammar -/

def Digits (chars : List Char) : Prop := chars ≠ [] ∧ ∀ c ∈ chars, c.isDigit = true

def Sign (chars : List Char) : Prop := chars = [] ∨ chars = ['+'] ∨ chars = ['-']

inductive Mantissa : List Char → Prop
  | whole {digits : List Char} (some : Digits digits) : Mantissa digits
  | pointed {digits fraction : List Char} (some : Digits digits)
      (each : ∀ c ∈ fraction, c.isDigit = true) : Mantissa (digits ++ '.' :: fraction)
  | fraction {digits : List Char} (some : Digits digits) : Mantissa ('.' :: digits)

inductive Scale : List Char → Prop
  | none : Scale []
  | exponent {mark : Char} {sign digits : List Char} (marked : mark = 'e' ∨ mark = 'E')
      (signed : Sign sign) (some : Digits digits) : Scale (mark :: (sign ++ digits))

/-- A sign or none, a mantissa, and a scale or none. -/
inductive IsNumeral : List Char → Prop
  | intro {sign mantissa scale : List Char} (signed : Sign sign) (valued : Mantissa mantissa)
      (scaled : Scale scale) : IsNumeral (sign ++ mantissa ++ scale)

/-! ### Spans of digits -/

/-- No digit stands at the front. -/
def NoDigitFirst (chars : List Char) : Prop := ∀ c ∈ chars.head?, c.isDigit = false

theorem takeWhile_isDigit {digits rest : List Char} (each : ∀ c ∈ digits, c.isDigit = true)
    (ends : NoDigitFirst rest) : (digits ++ rest).takeWhile Char.isDigit = digits := by
  rw [List.takeWhile_append_of_pos each]
  cases rest with
  | nil => exact List.append_nil digits
  | cons c rest => rw [List.takeWhile_cons_of_neg (by simp [ends c rfl]), List.append_nil]

theorem dropWhile_isDigit {digits rest : List Char} (each : ∀ c ∈ digits, c.isDigit = true)
    (ends : NoDigitFirst rest) : (digits ++ rest).dropWhile Char.isDigit = rest := by
  rw [List.dropWhile_append_of_pos each]
  cases rest with
  | nil => rfl
  | cons c rest => exact List.dropWhile_cons_of_neg (by simp [ends c rfl])

theorem digits_takeWhile {chars : List Char} (some : chars.takeWhile Char.isDigit ≠ []) :
    Digits (chars.takeWhile Char.isDigit) :=
  ⟨some, fun _ member => List.mem_takeWhile_imp member⟩

/-! ### Signs -/

theorem exists_sign (chars : List Char) :
    ∃ sign, Sign sign ∧ chars = sign ++ (splitSign chars).2 := by
  rw [splitSign.eq_def]
  split
  · exact ⟨['-'], .inr (.inr rfl), rfl⟩
  · exact ⟨['+'], .inr (.inl rfl), rfl⟩
  · exact ⟨[], .inl rfl, rfl⟩

theorem splitSign_unsigned {chars : List Char} (noPlus : chars.head? ≠ some '+')
    (noMinus : chars.head? ≠ some '-') : splitSign chars = (false, chars) := by
  rw [splitSign.eq_def]
  split
  · exact absurd rfl noMinus
  · exact absurd rfl noPlus
  · rfl

/-- A sign is split off from what does not start with one. -/
theorem splitSign_append {sign rest : List Char} (signed : Sign sign)
    (noPlus : rest.head? ≠ some '+') (noMinus : rest.head? ≠ some '-') :
    (splitSign (sign ++ rest)).2 = rest := by
  rcases signed with rfl | rfl | rfl
  · rw [List.nil_append, splitSign_unsigned noPlus noMinus]
  · rfl
  · rfl

theorem head?_ne_of_digits {digits : List Char} (each : ∀ c ∈ digits, c.isDigit = true)
    {c : Char} (noDigit : c.isDigit = false) : digits.head? ≠ some c := by
  intro first
  have digit := each c (List.mem_of_mem_head? first)
  rw [noDigit] at digit
  cases digit

theorem splitSign_digits {digits : List Char} (each : ∀ c ∈ digits, c.isDigit = true) :
    splitSign digits = (false, digits) :=
  splitSign_unsigned (head?_ne_of_digits each (by decide)) (head?_ne_of_digits each (by decide))

/-! ### Scales -/

theorem isSome_readExponent?_iff (chars : List Char) :
    (readExponent? chars).isSome = true ↔
      ∃ sign digits, Sign sign ∧ Digits digits ∧ chars = sign ++ digits := by
  have readable : (readExponent? chars).isSome = true ↔ Digits (splitSign chars).2 := by
    simp only [readExponent?, Digits, List.all_eq_true]
    split <;> simp_all
  rw [readable]
  constructor
  · intro some
    obtain ⟨sign, signed, split⟩ := exists_sign chars
    exact ⟨sign, _, signed, some, split⟩
  · rintro ⟨sign, digits, signed, some, rfl⟩
    rwa [splitSign_append signed (head?_ne_of_digits some.2 (by decide))
      (head?_ne_of_digits some.2 (by decide))]

theorem isSome_readScale?_iff (chars : List Char) :
    (readScale? chars).isSome = true ↔ Scale chars := by
  constructor
  · intro read
    rw [readScale?.eq_def] at read
    split at read
    · exact .none
    · obtain ⟨sign, digits, signed, some, rfl⟩ := (isSome_readExponent?_iff _).mp read
      exact .exponent (.inl rfl) signed some
    · obtain ⟨sign, digits, signed, some, rfl⟩ := (isSome_readExponent?_iff _).mp read
      exact .exponent (.inr rfl) signed some
    · cases read
  · intro scale
    cases scale with
    | none => rfl
    | @exponent mark sign digits marked signed some =>
        have read := (isSome_readExponent?_iff (sign ++ digits)).mpr
          ⟨sign, digits, signed, some, rfl⟩
        rcases marked with rfl | rfl
        · exact read
        · exact read

/-- A scale begins with a letter. -/
theorem Scale.head?_eq {scale : List Char} (isScale : Scale scale) {c : Char}
    (first : scale.head? = some c) : c = 'e' ∨ c = 'E' := by
  cases isScale with
  | none => cases first
  | exponent marked _ _ =>
      cases first
      exact marked

theorem Scale.noDigitFirst {scale : List Char} (isScale : Scale scale) : NoDigitFirst scale := by
  intro c first
  rcases isScale.head?_eq first with rfl | rfl <;> decide

/-! ### Numerals -/

/-- What the reader splits an unsigned text into. -/
def unsigned (chars : List Char) : List Char × List Char × List Char :=
  (chars.takeWhile Char.isDigit, splitFraction (chars.dropWhile Char.isDigit))

theorem isSome_read?_iff (chars : List Char) :
    (Numeral.read? chars).isSome = true ↔
      ¬ ((unsigned (splitSign chars).2).1 = [] ∧ (unsigned (splitSign chars).2).2.1 = []) ∧
        Scale (unsigned (splitSign chars).2).2.2 := by
  rw [← isSome_readScale?_iff]
  simp only [Numeral.read?, unsigned]
  split <;> simp_all

theorem splitFraction_of_ne_point {chars : List Char} (noPoint : chars.head? ≠ some '.') :
    splitFraction chars = ([], chars) := by
  rw [splitFraction.eq_def]
  split
  · exact absurd rfl noPoint
  · rfl

theorem unsigned_whole {digits scale : List Char} (each : ∀ c ∈ digits, c.isDigit = true)
    (scaled : Scale scale) : unsigned (digits ++ scale) = (digits, [], scale) := by
  have noPoint : scale.head? ≠ some '.' := by
    intro first
    rcases scaled.head?_eq first with same | same <;> cases same
  rw [unsigned, takeWhile_isDigit each scaled.noDigitFirst,
    dropWhile_isDigit each scaled.noDigitFirst, splitFraction_of_ne_point noPoint]

theorem unsigned_pointed {digits fraction scale : List Char}
    (each : ∀ c ∈ digits, c.isDigit = true) (later : ∀ c ∈ fraction, c.isDigit = true)
    (scaled : Scale scale) :
    unsigned (digits ++ '.' :: (fraction ++ scale)) = (digits, fraction, scale) := by
  have point : NoDigitFirst ('.' :: (fraction ++ scale)) := by
    intro c first
    cases first
    decide
  rw [unsigned, takeWhile_isDigit each point, dropWhile_isDigit each point, splitFraction,
    takeWhile_isDigit later scaled.noDigitFirst, dropWhile_isDigit later scaled.noDigitFirst]

/-- Split apart, an unsigned text has digits and ends in a scale exactly when it is a mantissa
before a scale. -/
theorem unsigned_iff (chars : List Char) :
    (¬ ((unsigned chars).1 = [] ∧ (unsigned chars).2.1 = []) ∧ Scale (unsigned chars).2.2) ↔
      ∃ mantissa scale, Mantissa mantissa ∧ Scale scale ∧ chars = mantissa ++ scale := by
  constructor
  · rintro ⟨some, scaled⟩
    have whole := (List.takeWhile_append_dropWhile (p := Char.isDigit) (l := chars)).symm
    rw [unsigned] at some scaled
    generalize rest : chars.dropWhile Char.isDigit = tail at some scaled whole
    by_cases point : tail.head? = .some '.'
    · obtain ⟨after, rfl⟩ : ∃ after, tail = '.' :: after := by
        cases tail with
        | nil => cases point
        | cons c after => exact ⟨after, by rw [Option.some.inj point]⟩
      rw [splitFraction] at some scaled
      have parted := (List.takeWhile_append_dropWhile (p := Char.isDigit) (l := after)).symm
      by_cases none : chars.takeWhile Char.isDigit = []
      · refine ⟨_, _, .fraction (digits_takeWhile fun empty => some ⟨none, empty⟩), scaled, ?_⟩
        rw [whole, none, List.nil_append, List.cons_append, ← parted]
      · have each : ∀ c ∈ after.takeWhile Char.isDigit, c.isDigit = true :=
          fun _ => List.mem_takeWhile_imp
        refine ⟨_, _, .pointed (digits_takeWhile none) each, scaled, ?_⟩
        rw [List.append_assoc, List.cons_append, ← parted]
        exact whole
    · rw [splitFraction_of_ne_point point] at some scaled
      exact ⟨_, tail, .whole (digits_takeWhile fun none => some ⟨none, rfl⟩), scaled, whole⟩
  · rintro ⟨mantissa, scale, valued, scaled, rfl⟩
    cases valued with
    | whole some =>
        rw [unsigned_whole some.2 scaled]
        exact ⟨fun none => some.1 none.1, scaled⟩
    | pointed some each =>
        rw [List.append_assoc, List.cons_append, unsigned_pointed some.2 each scaled]
        exact ⟨fun none => some.1 none.1, scaled⟩
    | @fraction digits some =>
        have none : ∀ c ∈ ([] : List Char), c.isDigit = true := nofun
        have split := unsigned_pointed none some.2 scaled
        rw [List.nil_append] at split
        rw [List.cons_append, split]
        exact ⟨fun none => some.1 none.2, scaled⟩

theorem Mantissa.head?_eq {mantissa : List Char} (valued : Mantissa mantissa) (rest : List Char) :
    ∃ c, (mantissa ++ rest).head? = some c ∧ (c = '.' ∨ c.isDigit = true) := by
  have ofDigits {digits : List Char} (some : Digits digits) (rest : List Char) :
      ∃ c, (digits ++ rest).head? = .some c ∧ (c = '.' ∨ c.isDigit = true) := by
    obtain ⟨c, others, rfl⟩ := List.exists_cons_of_ne_nil some.1
    exact ⟨c, rfl, .inr (some.2 c List.mem_cons_self)⟩
  cases valued with
  | whole some => exact ofDigits some rest
  | pointed some _ =>
      rw [List.append_assoc]
      exact ofDigits some _
  | fraction _ => exact ⟨'.', rfl, .inl rfl⟩

theorem isSome_read?_iff_isNumeral (chars : List Char) :
    (Numeral.read? chars).isSome = true ↔ IsNumeral chars := by
  rw [isSome_read?_iff, unsigned_iff]
  constructor
  · rintro ⟨mantissa, scale, valued, scaled, split⟩
    obtain ⟨sign, signed, whole⟩ := exists_sign chars
    rw [whole, split, ← List.append_assoc]
    exact .intro signed valued scaled
  · intro numeral
    cases numeral with
    | @intro sign mantissa scale signed valued scaled =>
        obtain ⟨c, first, unsigned⟩ := valued.head?_eq scale
        have other {d : Char} (noDigit : d.isDigit = false) (noPoint : d ≠ '.') :
            (mantissa ++ scale).head? ≠ some d := by
          rw [first]
          intro same
          cases same
          rcases unsigned with rfl | digit
          · exact noPoint rfl
          · rw [noDigit] at digit
            cases digit
        refine ⟨mantissa, scale, valued, scaled, ?_⟩
        rw [List.append_assoc, splitSign_append signed (other (by decide) (by decide))
          (other (by decide) (by decide))]

/-- The characters of numerals. -/
theorem IsNumeral.isDigit_or_mem {chars : List Char} (numeral : IsNumeral chars) {c : Char}
    (member : c ∈ chars) : c.isDigit = true ∨ c ∈ ['+', '-', '.', 'e', 'E'] := by
  have inSign {sign : List Char} (signed : Sign sign) (inside : c ∈ sign) :
      c ∈ ['+', '-', '.', 'e', 'E'] := by
    rcases signed with rfl | rfl | rfl <;> simp_all
  obtain ⟨signed, valued, scaled⟩ := numeral
  rcases List.mem_append.mp member with early | inScale
  · rcases List.mem_append.mp early with inside | inMantissa
    · exact .inr (inSign signed inside)
    · cases valued with
      | whole some => exact .inl (some.2 c inMantissa)
      | pointed some each =>
          rcases List.mem_append.mp inMantissa with inWhole | later
          · exact .inl (some.2 c inWhole)
          · rcases List.mem_cons.mp later with rfl | inFraction
            · exact .inr (by decide)
            · exact .inl (each c inFraction)
      | fraction some =>
          rcases List.mem_cons.mp inMantissa with rfl | inFraction
          · exact .inr (by decide)
          · exact .inl (some.2 c inFraction)
  · cases scaled with
    | none => cases inScale
    | exponent marked signed some =>
        rcases List.mem_cons.mp inScale with rfl | later
        · rcases marked with rfl | rfl <;> exact .inr (by decide)
        · rcases List.mem_append.mp later with inside | inDigits
          · exact .inr (inSign signed inside)
          · exact .inl (some.2 c inDigits)

end Stanza.Decimal
