import Stanza.Decimal.Layout
import Stanza.Decimal.Numeral
import Stanza.Text.Blank
import Stanza.Value

set_option autoImplicit false

/-!
The number text of any value. Numbers stand for themselves, truth values and null for
one and zero, and a string for the number it spells out: a decimal numeral, a number
with a radix mark, or an infinity, with white space around it and nothing at all for
zero. Every other value is written `NaN`.
-/

namespace Stanza.Render

open Stanza.Decimal

/-- Numbers of stanzas: whole numbers have no point, and zero has no sign. -/
def numberStyle : NumberStyle where
  least := -6
  greatest := 20
  wholeMark := ""
  signedZero := false
  tie := .greater

def extendedText : Extended → String
  | .nan => "NaN"
  | .infinite true => "-Infinity"
  | .infinite false => "Infinity"
  | .finite value => value.text numberStyle

def isDigitOf (base : Nat) (c : Char) : Bool :=
  (c.isDigit || ('a' ≤ c && c ≤ 'f') || ('A' ≤ c && c ≤ 'F')) && digitValue c < base

/-- Digits of a base, after at most one plus sign, that denote a number below `2 ^ 64`. -/
def readRadix? (base : Nat) (chars : List Char) : Option Nat :=
  let digits := match chars with
    | '+' :: rest => rest
    | _ => chars
  if digits ≠ [] ∧ digits.all (isDigitOf base) ∧ natOfDigits base digits < twoTo 64 then
    some (natOfDigits base digits)
  else none

/-- The base that a mark after a zero stands for. -/
def radixOf? (mark : Char) : Option Nat :=
  if mark = 'x' ∨ mark = 'X' then some 16
  else if mark = 'o' ∨ mark = 'O' then some 8
  else if mark = 'b' ∨ mark = 'B' then some 2
  else none

/-- The radix and the characters after a radix mark at the front. -/
def splitRadix? : List Char → Option (Nat × List Char)
  | '0' :: mark :: rest => (radixOf? mark).map fun base => (base, rest)
  | _ => none

def readNumber (chars : List Char) : Extended :=
  match splitRadix? chars with
  | some (base, digits) =>
      match readRadix? base digits with
      | some number => .ofNat number
      | none => .nan
  | none =>
      if chars = [] then .finite (.zero false)
      else if chars = "Infinity".toList ∨ chars = "+Infinity".toList then .infinite false
      else if chars = "-Infinity".toList then .infinite true
      else match Numeral.read? chars with
        | some numeral => numeral.value
        | none => .nan

def numberText : Value → String
  | .number (.int value) => toString value
  | .number (.float value) => value.text numberStyle
  | .bool true => "1"
  | .bool false => "0"
  | .null => "0"
  | .string text => extendedText (readNumber (Text.trimChars text.toList))
  | .list _ => "NaN"
  | .object _ => "NaN"

end Stanza.Render
