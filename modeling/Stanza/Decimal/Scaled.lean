import Stanza.Decimal.Numeral

set_option autoImplicit false

/-!
Numbers in the documents of JSON. An integer that fits a machine word of sixty-four
bits, signed or unsigned, is exact. Any other numeral is read by one scaling: as many
leading digits as fit an unsigned word are rounded to double precision, and the result
is multiplied or divided by the rounded power of ten. Digits beyond those do not count,
so the outcome may differ from the nearest number by a few units in the last place.
-/

namespace Stanza.Decimal

def wordBound : Nat := twoTo 64

/-- Takes digits in while the number stays below `wordBound`; counts the digits left out. -/
def absorb (number : Nat) : List Char → Nat × Nat
  | [] => (number, 0)
  | digit :: rest =>
      if number * 10 + digitValue digit < wordBound then
        absorb (number * 10 + digitValue digit) rest
      else (number, rest.length + 1)

def powerOfTen (power : Nat) : Binary64 :=
  match Extended.ofNat (tenTo power) with
  | .finite value => value
  | _ => .zero false

/--
Multiplies or divides by a power of ten in steps of at most `10 ^ 308`. Nothing is
returned for a result beyond the greatest number. A dividend below `2 ^ 64` vanishes
after two full steps, so four rounds are enough.
-/
def scale : Nat → Binary64 → Int → Option Binary64
  | 0, value, _ => some value
  | rounds + 1, value, power =>
      if 0 ≤ power then
        if power ≤ 308 then
          match value.mul (powerOfTen power.toNat) with
          | .finite result => some result
          | _ => none
        else if value.isZero then some value
        else none
      else if -308 ≤ power then
        match value.div (powerOfTen (-power).toNat) with
        | .finite result => some result
        | _ => none
      else if value.isZero then some value
      else match value.div (powerOfTen 308) with
        | .finite result => scale rounds result (power + 308)
        | _ => none

/-- The number that a numeral denotes by one scaling; nothing when it is too great. -/
def Numeral.scaled? (numeral : Numeral) : Option Binary64 :=
  let (leading, unread) := absorb 0 numeral.whole
  let (significand, dropped) := absorb leading numeral.fraction
  let taken : Int := (numeral.fraction.length : Int) - dropped
  match Extended.ofNat significand with
  | .finite value =>
      (scale 4 value (numeral.exponent + unread - taken)).map fun result =>
        { result with negative := numeral.negative }
  | _ => none

end Stanza.Decimal
