import Stanza.Text.Blank

set_option autoImplicit false

/-!
Stanza texts are laid out as paragraphs: one blank line between two of them and a
line end after the last. Blank texts take no place, so joining nothing gives the
empty text.
-/

namespace Stanza.Text

/-- The trimmed texts that are not blank, in order. -/
def paragraphs (texts : List String) : List String :=
  (texts.map trim).filter fun text => text ≠ ""

/-- Paragraphs with one blank line between neighbours and one line end after the last. -/
def layParagraphs : List String → String
  | [] => ""
  | first :: rest => rest.foldl (fun text next => text ++ "\n\n" ++ next) first ++ "\n"

/-- Joins stanzas with a blank line between them, leaving blank ones out. -/
def joinStanzas (texts : List String) : String :=
  layParagraphs (paragraphs texts)

end Stanza.Text
