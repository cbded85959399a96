import Stanza.Decimal.Binary64

set_option autoImplicit false

/-!
Decimal numerals: an optional sign, digits with at most one point among or around
them and at least one digit in all, and an optional exponent.
-/

namespace Stanza.Decimal

structure Numeral where
  negative : Bool
  whole : List Char
  fraction : List Char
  exponent : Int
deriving DecidableEq, Repr

/-- The number that a string of digits denotes in a base up to sixteen. -/
def digitValue (c : Char) : Nat :=
  if c.isDigit then c.toNat - 48
  else if c.isLower then c.toNat - 87
  else c.toNat - 55

def natOfDigits (base : Nat) (digits : List Char) : Nat :=
  digits.foldl (fun number digit => number * base + digitValue digit) 0

def splitSign : List Char → Bool × List Char
  | '-' :: rest => (true, rest)
  | '+' :: rest => (false, rest)
  | chars => (false, chars)

/-- A signed number of one or more digits, with nothing after it. -/
def readExponent? (chars : List Char) : Option Int :=
  let (negative, digits) := splitSign chars
  if digits ≠ [] ∧ digits.all Char.isDigit then
    let size : Int := natOfDigits 10 digits
    some (if negative then -size else size)
  else none

/-- The exponent after the digits of a numeral, zero when there is none. -/
def readScale? : List Char → Option Int
  | [] => some 0
  | 'e' :: rest => readExponent? rest
  | 'E' :: rest => readExponent? rest
  | _ => none

/-- The digits after a point at the front, and what follows them. -/
def splitFraction : List Char → List Char × List Char
  | '.' :: rest => (rest.takeWhile Char.isDigit, rest.dropWhile Char.isDigit)
  | chars => ([], chars)

/-- Reads a whole text as a numeral. -/
def Numeral.read? (chars : List Char) : Option Numeral :=
  let (negative, body) := splitSign chars
  let whole := body.takeWhile Char.isDigit
  let (fraction, rest) := splitFraction (body.dropWhile Char.isDigit)
  if whole = [] ∧ fraction = [] then none
  else (readScale? rest).map fun exponent => ⟨negative, whole, fraction, exponent⟩

def Numeral.value (numeral : Numeral) : Extended :=
  .ofDecimal numeral.negative (natOfDigits 10 (numeral.whole ++ numeral.fraction))
    (numeral.exponent - numeral.fraction.length)

end Stanza.Decimal
