import Stanza.Value
import Stanza.Decimal.Layout

set_option autoImplicit false

/-!
The JSON text of values: compact without any spaces, or pretty with two spaces for
each level. Only quotes, backslashes and the control characters below U+0020 are
escaped.
-/

namespace Stanza.Value

/-- Numbers of manifests: a whole number keeps `.0`, and so does the negative zero its sign. -/
def numberStyle : Decimal.NumberStyle where
  least := -5
  greatest := 15
  wholeMark := ".0"
  signedZero := true
  tie := .even

def numberText : Number → String
  | .int value => toString value
  | .float value => value.text numberStyle

def hexDigit (number : Nat) : Char :=
  if number < 10 then Char.ofNat (48 + number) else Char.ofNat (87 + number)

def escapeChar (c : Char) : List Char :=
  if c = '"' then ['\\', '"']
  else if c = '\\' then ['\\', '\\']
  else if c.toNat = 8 then ['\\', 'b']
  else if c.toNat = 9 then ['\\', 't']
  else if c.toNat = 10 then ['\\', 'n']
  else if c.toNat = 12 then ['\\', 'f']
  else if c.toNat = 13 then ['\\', 'r']
  else if c.toNat < 32 then
    ['\\', 'u', '0', '0', hexDigit (c.toNat / 16), hexDigit (c.toNat % 16)]
  else [c]

/-- A text between double quotes, escaped. -/
def stringText (text : String) : String :=
  String.ofList ('"' :: (text.toList.flatMap escapeChar ++ ['"']))

def leafText : Value → String
  | .bool true => "true"
  | .bool false => "false"
  | .number value => numberText value
  | .string text => stringText text
  | _ => "null"

mutual
def compact : Value → String
  | .list items => "[" ++ ",".intercalate (compactItems items) ++ "]"
  | .object members => "\x7b" ++ ",".intercalate (compactMembers members) ++ "\x7d"
  | value => leafText value
termination_by structural value => value

def compactItems : List Value → List String
  | [] => []
  | item :: rest => compact item :: compactItems rest
termination_by structural items => items

def compactMembers : List (String × Value) → List String
  | [] => []
  | (key, value) :: rest => (stringText key ++ ":" ++ compact value) :: compactMembers rest
termination_by structural members => members
end

def margin (level : Nat) : String := String.ofList (List.replicate (2 * level) ' ')

/-- Puts each text on a line of its own, one level deeper than the brackets around them. -/
def bracketLines (level : Nat) (opening closing : String) (texts : List String) : String :=
  if texts.isEmpty then opening ++ closing
  else
    let separator := ",\n" ++ margin (level + 1)
    opening ++ "\n" ++ margin (level + 1) ++ separator.intercalate texts ++ "\n" ++
      margin level ++ closing

mutual
/-- The text of a value at a level of indentation, a line for each item and member. -/
def prettyAt (level : Nat) : Value → String
  | .list items => bracketLines level "[" "]" (prettyItems (level + 1) items)
  | .object members => bracketLines level "\x7b" "\x7d" (prettyMembers (level + 1) members)
  | value => leafText value
termination_by structural value => value

def prettyItems (level : Nat) : List Value → List String
  | [] => []
  | item :: rest => prettyAt level item :: prettyItems level rest
termination_by structural items => items

def prettyMembers (level : Nat) : List (String × Value) → List String
  | [] => []
  | (key, value) :: rest =>
      (stringText key ++ ": " ++ prettyAt level value) :: prettyMembers level rest
termination_by structural members => members
end

/-- The text of a value with a line for each item and member, without a final line end. -/
def pretty (value : Value) : String := prettyAt 0 value

end Stanza.Value
