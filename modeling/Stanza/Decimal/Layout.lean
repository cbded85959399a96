import Stanza.Decimal.Shortest

set_option autoImplicit false

/-!
How a double-precision number is written: positionally while its decimal exponent
lies within bounds, and with an exponent of explicit sign outside them.
-/

namespace Stanza.Decimal

structure NumberStyle where
  /-- The least decimal exponent that is written positionally. -/
  least : Int
  /-- The greatest decimal exponent that is written positionally. -/
  greatest : Int
  /-- What follows the digits of a whole number written positionally. -/
  wholeMark : String
  /-- Whether the negative zero keeps its sign. -/
  signedZero : Bool
  /-- Which of two equally near digit strings is written. -/
  tie : Tie

def zeros (count : Nat) : List Char := List.replicate count '0'

def Scientific.order (decimal : Scientific) : Int :=
  decimal.exponent + (Nat.toDigits 10 decimal.digits).length - 1

def Scientific.positional (wholeMark : String) (decimal : Scientific) : String :=
  let digits := Nat.toDigits 10 decimal.digits
  if 0 ≤ decimal.exponent then
    String.ofList (digits ++ zeros decimal.exponent.toNat) ++ wholeMark
  else
    let places := (-decimal.exponent).toNat
    if places < digits.length then
      String.ofList (digits.take (digits.length - places)) ++ "." ++
        String.ofList (digits.drop (digits.length - places))
    else
      "0." ++ String.ofList (zeros (places - digits.length) ++ digits)

/-- One digit, the others after a point, and the decimal exponent with its sign. -/
def Scientific.exponential (decimal : Scientific) : String :=
  let mantissa := match Nat.toDigits 10 decimal.digits with
    | [] => ""
    | [digit] => String.ofList [digit]
    | digit :: others => String.ofList (digit :: '.' :: others)
  let sign := if decimal.order < 0 then "-" else "+"
  mantissa ++ "e" ++ sign ++ toString decimal.order.natAbs

def Scientific.text (style : NumberStyle) (decimal : Scientific) : String :=
  if style.least ≤ decimal.order ∧ decimal.order ≤ style.greatest then
    decimal.positional style.wholeMark
  else decimal.exponential

def Binary64.text (style : NumberStyle) (value : Binary64) : String :=
  let sign := if value.negative && (style.signedZero || !value.isZero) then "-" else ""
  sign ++ (value.shortest style.tie).text style

end Stanza.Decimal
