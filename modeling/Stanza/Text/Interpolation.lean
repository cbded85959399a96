set_option autoImplicit false

/-!
String literals of the target language. There the two characters dollar and opening
brace start an interpolation unless another dollar stands before them, so a literal
doubles the dollar of every such pair that has none before it yet.
-/

namespace Stanza.Text

/-- Doubles each dollar that starts an interpolation; `previous` is the character before. -/
def escapeAfter (previous : Option Char) : List Char → List Char
  | [] => []
  | c :: rest =>
      if c = '$' ∧ rest.head? = some '\x7b' ∧ previous ≠ some '$' then
        '$' :: '$' :: escapeAfter (some c) rest
      else
        c :: escapeAfter (some c) rest

/-- The text with every interpolation in it turned into plain characters. -/
def escapeInterpolation (text : String) : String :=
  String.ofList (escapeAfter none text.toList)

/-- The literal that stands for a text: the escaped text between double quotes. -/
def literal (text : String) : String :=
  "\"" ++ escapeInterpolation text ++ "\""

end Stanza.Text
