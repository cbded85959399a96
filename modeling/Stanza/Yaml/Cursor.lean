set_option autoImplicit false

/-!
Positions in a YAML text. The text is prepared first: only printable characters are
admitted, and the line ends CR LF, CR and NEL become LF. Then a cursor walks over it
and counts bytes, lines and columns.
-/

namespace Stanza.Yaml

/-- The characters that a text may hold. -/
def isPrintable (c : Char) : Bool :=
  let code := c.toNat
  code == 0x09 || code == 0x0A || code == 0x0D || (0x20 ≤ code && code ≤ 0x7E) ||
    code == 0x85 || (0xA0 ≤ code && code ≤ 0xD7FF) || (0xE000 ≤ code && code ≤ 0xFFFD) ||
    0x10000 ≤ code

/-- One line end for all of them. -/
def unifyLineEnds : List Char → List Char
  | [] => []
  | '\r' :: '\n' :: rest => '\n' :: unifyLineEnds rest
  | c :: rest => (if c = '\r' ∨ c = '\u0085' then '\n' else c) :: unifyLineEnds rest

/-- The characters to be read; nothing when the text holds one that is not admitted. -/
def prepare? (text : String) : Option (List Char) :=
  if text.toList.all isPrintable then some (unifyLineEnds text.toList) else none

/-- Line ends, with the two separators of lines and paragraphs among them. -/
def isBreak (c : Char) : Bool := c == '\n' || c == '\u2028' || c == '\u2029'

def isSpaceOrTab (c : Char) : Bool := c == ' ' || c == '\t'

/-- Whether what is left starts with white space or is empty. -/
def atGap : List Char → Bool
  | [] => true
  | c :: _ => isSpaceOrTab c || isBreak c

def byteCount (chars : List Char) : Nat := chars.foldl (fun total c => total + c.utf8Size) 0

/-- What is left of a text, and where it starts. -/
structure Cursor where
  chars : List Char
  /-- How many bytes of UTF-8 stand before it. -/
  offset : Nat := 0
  line : Nat := 0
  column : Nat := 0

namespace Cursor

/-- Steps over characters within a line. -/
def advance (cursor : Cursor) (passed rest : List Char) : Cursor :=
  { cursor with
    chars := rest
    offset := cursor.offset + byteCount passed
    column := cursor.column + passed.length }

def skip (cursor : Cursor) (count : Nat) : Cursor :=
  cursor.advance (cursor.chars.take count) (cursor.chars.drop count)

def nextLine (cursor : Cursor) : Cursor :=
  { chars := cursor.chars.drop 1
    offset := cursor.offset + byteCount (cursor.chars.take 1)
    line := cursor.line + 1
    column := 0 }

/-- Steps over characters as long as they pass a test, within a line. -/
def skipWhile (cursor : Cursor) (test : Char → Bool) : Cursor :=
  cursor.advance (cursor.chars.takeWhile test) (cursor.chars.dropWhile test)

/-- Steps over a byte order mark, which may start any line and takes a column of it. -/
def skipByteOrderMark (cursor : Cursor) : Cursor :=
  if cursor.column == 0 && cursor.chars.head? == some '\ufeff' then cursor.skip 1 else cursor

/-- Whether a mark between documents stands here: three dashes or dots at a line's start. -/
def atDocumentMark (cursor : Cursor) : Bool :=
  cursor.column == 0 &&
    match cursor.chars with
    | a :: b :: c :: rest =>
        a == b && b == c && (a == '-' || a == '.') && atGap rest
    | _ => false

end Cursor
end Stanza.Yaml
