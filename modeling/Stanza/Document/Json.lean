import Stanza.Decimal.Scaled
import Stanza.Document

set_option autoImplicit false

/-!
The reader of JSON. It takes exactly the texts of the grammar and refuses everything
else. A string with half of a surrogate pair keeps to the grammar, but is broken. Where
all of a document is looked into, lists and objects are at most 127 deep.
-/

namespace Stanza.Document.Json

open Stanza.Decimal

def isSpace (c : Char) : Bool := c == ' ' || c == '\n' || c == '\t' || c == '\r'

def skipSpace (chars : List Char) : List Char := chars.dropWhile isSpace

/-! ### Strings -/

def hexValue? (c : Char) : Option Nat :=
  if c.isDigit || ('a' ≤ c && c ≤ 'f') || ('A' ≤ c && c ≤ 'F') then some (digitValue c)
  else none

def unit? (a b c d : Char) : Option Nat := do
  let a ← hexValue? a
  let b ← hexValue? b
  let c ← hexValue? c
  let d ← hexValue? d
  pure (((a * 16 + b) * 16 + c) * 16 + d)

def isLeading (unit : Nat) : Bool := 0xD800 ≤ unit && unit < 0xDC00

def isTrailing (unit : Nat) : Bool := 0xDC00 ≤ unit && unit < 0xE000

def pairChar (leading trailing : Nat) : Char :=
  Char.ofNat (0x10000 + (leading - 0xD800) * 0x400 + (trailing - 0xDC00))

def escaped? (letter : Char) : Option Char :=
  if letter = '"' ∨ letter = '\\' ∨ letter = '/' then some letter
  else if letter = 'b' then some '\x08'
  else if letter = 'f' then some '\x0c'
  else if letter = 'n' then some '\n'
  else if letter = 'r' then some '\r'
  else if letter = 't' then some '\t'
  else none

/-- A piece of a string: a character, or a unit of UTF-16 by its number. -/
inductive Piece where
  | char (c : Char)
  | unit (number : Nat)
deriving DecidableEq, Repr

/-- Reads up to the closing quote; `taken` holds the pieces so far, the last one first. -/
def readPieces (taken : List Piece) : List Char → Option (List Piece × List Char)
  | [] => none
  | '"' :: rest => some (taken.reverse, rest)
  | '\\' :: 'u' :: a :: b :: c :: d :: rest =>
      match unit? a b c d with
      | some number => readPieces (.unit number :: taken) rest
      | none => none
  | '\\' :: letter :: rest =>
      match escaped? letter with
      | some c => readPieces (.char c :: taken) rest
      | none => none
  | c :: rest => if c.toNat < 32 then none else readPieces (.char c :: taken) rest

/-- The characters of pieces. A surrogate must stand before or behind its other half. -/
def joinPieces? : List Piece → Option (List Char)
  | [] => some []
  | .char c :: rest => (joinPieces? rest).map (c :: ·)
  | .unit leading :: .unit trailing :: rest =>
      if isLeading leading && isTrailing trailing then
        (joinPieces? rest).map (pairChar leading trailing :: ·)
      else if isLeading leading || isTrailing leading then none
      else (joinPieces? (.unit trailing :: rest)).map (Char.ofNat leading :: ·)
  | .unit number :: rest =>
      if isLeading number || isTrailing number then none
      else (joinPieces? rest).map (Char.ofNat number :: ·)

def readString (chars : List Char) : Option (Document × List Char) :=
  (readPieces [] chars).map fun (pieces, rest) =>
    match joinPieces? pieces with
    | some chars => (.quoted (String.ofList chars), rest)
    | none => (.broken, rest)

/-! ### Numbers -/

def isNumberChar (c : Char) : Bool :=
  c.isDigit || c == '+' || c == '-' || c == '.' || c == 'e' || c == 'E'

/-- Whether a numeral has the form that JSON asks for. -/
def isWellFormed (chars : List Char) (numeral : Numeral) : Bool :=
  numeral.whole != [] && (numeral.whole.head? != some '0' || numeral.whole.length == 1) &&
    chars.head? != some '+' && (!chars.contains '.' || numeral.fraction != [])

def isInteger (chars : List Char) : Bool :=
  !(chars.contains '.' || chars.contains 'e' || chars.contains 'E')

/-- The integer of a numeral without point and exponent, when a machine word holds it. -/
def wordInteger? (numeral : Numeral) : Option Int :=
  let size := natOfDigits 10 numeral.whole
  if numeral.negative then
    if 0 < size ∧ size ≤ twoTo 63 then some (-(size : Int)) else none
  else if size < wordBound then some (size : Int)
  else none

def numberMeaning (chars : List Char) (numeral : Numeral) : Meaning :=
  match if isInteger chars then wordInteger? numeral else none with
  | some integer => .number (.int integer)
  | none =>
      match numeral.scaled? with
      | some float => .number (.float float)
      | none => .outOfRange

def readNumber? (chars : List Char) : Option Document :=
  match Numeral.read? chars with
  | some numeral =>
      if isWellFormed chars numeral then
        some (.word (String.ofList chars) (numberMeaning chars numeral))
      else none
  | none => none

/-- The words that are not numbers. -/
def readWord (chars : List Char) : Option (Document × List Char) :=
  match chars with
  | 'n' :: 'u' :: 'l' :: 'l' :: rest => some (.word "null" .null, rest)
  | 't' :: 'r' :: 'u' :: 'e' :: rest => some (.word "true" (.bool true), rest)
  | 'f' :: 'a' :: 'l' :: 's' :: 'e' :: rest => some (.word "false" (.bool false), rest)
  | _ =>
      (readNumber? (chars.takeWhile isNumberChar)).map fun document =>
        (document, chars.dropWhile isNumberChar)

/-! ### Lists and objects -/

mutual
/-- Reads a value. Each step takes one of `fuel`. -/
def readValue : (fuel : Nat) → List Char → Option (Document × List Char)
  | 0, _ => none
  | fuel + 1, chars =>
      match skipSpace chars with
      | '"' :: rest => readString rest
      | '[' :: rest =>
          match skipSpace rest with
          | ']' :: rest => some (.list [], rest)
          | rest => (readItems fuel rest).map fun read => (.list read.1, read.2)
      | '\x7b' :: rest =>
          match skipSpace rest with
          | '\x7d' :: rest => some (.map [], rest)
          | rest => (readMembers fuel rest).map fun read => (.map read.1, read.2)
      | chars => readWord chars
termination_by structural fuel => fuel

def readItems : (fuel : Nat) → List Char → Option (List Document × List Char)
  | 0, _ => none
  | fuel + 1, chars =>
      match readValue fuel chars with
      | none => none
      | some (item, rest) =>
          match skipSpace rest with
          | ',' :: rest => (readItems fuel rest).map fun read => (item :: read.1, read.2)
          | ']' :: rest => some ([item], rest)
          | _ => none
termination_by structural fuel => fuel

def readMembers : (fuel : Nat) → List Char → Option (List (Document × Document) × List Char)
  | 0, _ => none
  | fuel + 1, chars =>
      match skipSpace chars with
      | '"' :: rest =>
          match readString rest with
          | none => none
          | some (key, rest) =>
              match skipSpace rest with
              | ':' :: rest =>
                  match readValue fuel rest with
                  | none => none
                  | some (value, rest) =>
                      match skipSpace rest with
                      | ',' :: rest =>
                          (readMembers fuel rest).map fun read =>
                            ((key, value) :: read.1, read.2)
                      | '\x7d' :: rest => some ([(key, value)], rest)
                      | _ => none
              | _ => none
      | _ => none
termination_by structural fuel => fuel
end

/-- Reads a whole text as one document. Every step takes a character, so its length is fuel. -/
def parse? (text : String) : Option Document :=
  let chars := text.toList
  match readValue (2 * chars.length + 2) chars with
  | some (document, rest) => if skipSpace rest = [] then some document else none
  | none => none

/-- How deep lists and objects that are looked into may stand within each other. -/
def depthLimit : Nat := 127

/-- Reads a whole text as one document that is looked into everywhere. -/
def read? (text : String) : Option Document := (parse? text).bind (within? depthLimit)

end Stanza.Document.Json
