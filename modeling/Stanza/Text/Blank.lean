set_option autoImplicit false

/-!
White space in the sense of the Unicode property `White_Space`, and the trimming
of texts by it. A text is blank when nothing is left of it after trimming.
-/

namespace Stanza.Text

/-- The code points that carry the Unicode property `White_Space`. -/
def isBlank (c : Char) : Bool :=
  let code := c.toNat
  (0x09 ≤ code && code ≤ 0x0D) || code == 0x20 || code == 0x85 || code == 0xA0 ||
    code == 0x1680 || (0x2000 ≤ code && code ≤ 0x200A) || code == 0x2028 ||
    code == 0x2029 || code == 0x202F || code == 0x205F || code == 0x3000

def trimChars (chars : List Char) : List Char :=
  ((chars.dropWhile isBlank).reverse.dropWhile isBlank).reverse

/-- The text without blank characters at either end. -/
def trim (text : String) : String :=
  String.ofList (trimChars text.toList)

end Stanza.Text
