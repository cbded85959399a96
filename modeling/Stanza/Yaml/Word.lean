import Stanza.Decimal.Numeral
import Stanza.Document

set_option autoImplicit false

/-!
What the unquoted words of YAML stand for: null, a truth value, an integer in decimal or
with a radix mark, a decimal numeral, an infinity or no number, and otherwise a text.
-/

namespace Stanza.Yaml

open Stanza.Decimal

def nullWords : List String := ["", "~", "null", "Null", "NULL"]

def trueWords : List String := ["true", "True", "TRUE"]

def falseWords : List String := ["false", "False", "FALSE"]

def undefinedWords : List String :=
  [".inf", ".Inf", ".INF", "+.inf", "+.Inf", "+.INF", "-.inf", "-.Inf", "-.INF",
    ".nan", ".NaN", ".NAN"]

/-- Digits of a base, of which there must be one. -/
def readDigits? (base : Nat) (chars : List Char) : Option Nat :=
  let isDigit (c : Char) : Bool :=
    (c.isDigit || ('a' ≤ c && c ≤ 'f') || ('A' ≤ c && c ≤ 'F')) && digitValue c < base
  if chars ≠ [] ∧ chars.all isDigit then some (natOfDigits base chars) else none

/-- Whether digits start with a zero that has no place there. -/
def hasExtraZero (digits : List Char) : Bool :=
  digits.length > 1 && digits.head? == some '0' && digits.all Char.isDigit

/-- The size of an integer without its sign, and whether it is written in decimal. -/
def readSize? : List Char → Option (Nat × Bool)
  | '0' :: 'x' :: digits => (readDigits? 16 digits).map fun size => (size, false)
  | '0' :: 'o' :: digits => (readDigits? 8 digits).map fun size => (size, false)
  | '0' :: 'b' :: digits => (readDigits? 2 digits).map fun size => (size, false)
  | digits =>
      if hasExtraZero digits then none
      else (readDigits? 10 digits).map fun size => (size, true)

/-- The meaning of an integer: exact within a machine word, out of range within two of them. -/
def integerMeaning? (negative : Bool) (size : Nat) : Option Meaning :=
  if negative then
    if size ≤ twoTo 63 then some (.number (.int (-(size : Int))))
    else if size ≤ twoTo 127 then some .outOfRange
    else none
  else if size < twoTo 64 then some (.number (.int (size : Int)))
  else if size < twoTo 128 then some .outOfRange
  else none

/-- The meaning of a decimal numeral within double precision. -/
def floatMeaning? (chars : List Char) : Option Meaning :=
  if hasExtraZero (splitSign chars).2 then none
  else match (Numeral.read? chars).map Numeral.value with
    | some (.finite value) => some (.number (.float value))
    | _ => none

def numberMeaning? (chars : List Char) : Option Meaning :=
  let (negative, body) := splitSign chars
  match (readSize? body).bind fun read => integerMeaning? negative read.1 with
  | some meaning => some meaning
  | none => floatMeaning? chars

def meaning (text : String) : Meaning :=
  if nullWords.contains text then .null
  else if trueWords.contains text then .bool true
  else if falseWords.contains text then .bool false
  else if undefinedWords.contains text then .undefined
  else (numberMeaning? text.toList).getD .text

end Stanza.Yaml
