set_option autoImplicit false

/-!
Numbers of binary double precision, as exact integers: `± mantissa · 2 ^ exponent`.
A quotient of natural numbers is rounded to the nearest such number, and a tie goes
to the even mantissa. Product and quotient are the rounded exact results. Nothing
here is approximate, so every statement about these numbers is one about `Nat` and `Int`.
-/

namespace Stanza.Decimal

def twoTo (power : Nat) : Nat := Nat.pow 2 power

def tenTo (power : Nat) : Nat := Nat.pow 10 power

/--
A finite number of double precision, `± mantissa · 2 ^ exponent`. Canonically the
mantissa is below `2 ^ 53`, the exponent lies between `-1074` and `971`, and the
mantissa is below `2 ^ 52` only at the exponent `-1074`. Both zeros occur.
-/
structure Binary64 where
  negative : Bool
  mantissa : Nat
  exponent : Int
deriving DecidableEq, Repr

/-- A result of arithmetic: a finite number, an infinity, or no number at all. -/
inductive Extended where
  | nan
  | infinite (negative : Bool)
  | finite (value : Binary64)
deriving DecidableEq, Repr

def leastExponent : Int := -1074

def greatestExponent : Int := 971

def Binary64.zero (negative : Bool) : Binary64 := ⟨negative, 0, leastExponent⟩

def Binary64.isZero (value : Binary64) : Bool := value.mantissa == 0

/-- The quotient rounded to the nearest natural number, a tie to the even one. -/
def roundHalfEven (dividend divisor : Nat) : Nat :=
  let quotient := dividend / divisor
  let rest := dividend % divisor
  if 2 * rest < divisor then quotient
  else if divisor < 2 * rest then quotient + 1
  else quotient + quotient % 2

/-- The greatest `e` with `2 ^ e ≤ dividend / divisor`, for positive arguments. -/
def binaryOrder (dividend divisor : Nat) : Int :=
  let guess : Int := (dividend.log2 : Int) - (divisor.log2 : Int)
  if divisor * twoTo guess.toNat ≤ dividend * twoTo (-guess).toNat then guess else guess - 1

/-- The double-precision number nearest to `± dividend / divisor`. -/
def Extended.ofRatio (negative : Bool) (dividend divisor : Nat) : Extended :=
  if dividend = 0 then .finite (.zero negative)
  else
    let exponent := max leastExponent (binaryOrder dividend divisor - 52)
    let mantissa :=
      roundHalfEven (dividend * twoTo (-exponent).toNat) (divisor * twoTo exponent.toNat)
    let carried := mantissa == twoTo 53
    let exponent := if carried then exponent + 1 else exponent
    let mantissa := if carried then twoTo 52 else mantissa
    if greatestExponent < exponent then .infinite negative
    else .finite ⟨negative, mantissa, exponent⟩

def Extended.ofNat (number : Nat) : Extended := .ofRatio false number 1

/-- The magnitude as a fraction of natural numbers. -/
def Binary64.fraction (value : Binary64) : Nat × Nat :=
  (value.mantissa * twoTo value.exponent.toNat, twoTo (-value.exponent).toNat)

def Binary64.mul (left right : Binary64) : Extended :=
  .ofRatio (left.negative != right.negative)
    (left.fraction.1 * right.fraction.1) (left.fraction.2 * right.fraction.2)

def Binary64.div (left right : Binary64) : Extended :=
  .ofRatio (left.negative != right.negative)
    (left.fraction.1 * right.fraction.2) (left.fraction.2 * right.fraction.1)

/--
The double-precision number nearest to `± digits · 10 ^ exponent`. Far outside the
range of double precision the power of ten is not computed: from `10 ^ 400` on every
number is infinite, and below `2 ^ (-1100)` every number is zero.
-/
def Extended.ofDecimal (negative : Bool) (digits : Nat) (exponent : Int) : Extended :=
  if digits = 0 then .finite (.zero negative)
  else if 400 < exponent then .infinite negative
  else if (digits.log2 : Int) + 1101 < -exponent * 3 then .finite (.zero negative)
  else .ofRatio negative (digits * tenTo exponent.toNat) (tenTo (-exponent).toNat)

end Stanza.Decimal
