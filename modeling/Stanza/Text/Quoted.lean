import Stanza.Text.Extending
import Stanza.Text.Unshown

set_option autoImplicit false

/-!
Texts in the quotes of messages. Double quotes, backslashes, tabs and line ends are
escaped by a backslash, and characters that do not show on their own by their code.
-/

namespace Stanza.Text

def isHidden (c : Char) : Bool := isUnshown c || isExtending c

def quotedChar (c : Char) : List Char :=
  if c = '\x00' then ['\\', '0']
  else if c = '\t' then ['\\', 't']
  else if c = '\n' then ['\\', 'n']
  else if c = '\r' then ['\\', 'r']
  else if c = '"' ∨ c = '\\' then ['\\', c]
  else if isHidden c then
    ['\\', 'u', '\x7b'] ++ Nat.toDigits 16 c.toNat ++ ['\x7d']
  else [c]

/-- A text between double quotes, with escapes. -/
def quoted (text : String) : String :=
  String.ofList ('"' :: (text.toList.flatMap quotedChar ++ ['"']))

end Stanza.Text
