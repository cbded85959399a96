import Stanza.Yaml.Cursor

set_option autoImplicit false

/-!
The texts of scalars. Words and quoted texts may run over several lines: a single line
end becomes a space and of several the first is dropped. A block text keeps its lines
or folds them, and a mark says what becomes of the line ends after its last line.
-/

namespace Stanza.Yaml

/-! ### Gaps -/

/-- White space within a scalar: the blanks before the first line end, and the line ends. -/
structure Gap where
  blanks : List Char := []
  breaks : List Char := []
  /-- Whether a line end was passed, be it one that counts for nothing. -/
  onNewLine : Bool := false

/-- What a gap between two stretches of text becomes. -/
def Gap.text (gap : Gap) : List Char :=
  match gap.breaks with
  | [] => gap.blanks
  | ['\n'] => [' ']
  | '\n' :: others => others
  | breaks => breaks

/--
Reads a gap. Blanks after a line end are dropped; there a tab is refused in columns
below `indent`. `fuel` is at least the number of characters left.
-/
def readGap (indent : Int) : (fuel : Nat) → Cursor → Gap → Option (Cursor × Gap)
  | 0, cursor, gap => some (cursor, gap)
  | fuel + 1, cursor, gap =>
      match cursor.chars with
      | [] => some (cursor, gap)
      | c :: _ =>
          if isSpaceOrTab c then
            if !gap.onNewLine then
              readGap indent fuel (cursor.skip 1) { gap with blanks := gap.blanks ++ [c] }
            else if c = '\t' ∧ (cursor.column : Int) < indent then none
            else readGap indent fuel (cursor.skip 1) gap
          else if isBreak c then
            readGap indent fuel cursor.nextLine
              { gap with breaks := gap.breaks ++ [c], onNewLine := true }
          else some (cursor, gap)

/-! ### Words -/

def isFlowMark (c : Char) : Bool :=
  c == ',' || c == '[' || c == ']' || c == '\x7b' || c == '\x7d'

/-- Whether a colon in a flow collection must not stand before this character. -/
def clashesWithColon : List Char → Bool
  | [] => false
  | c :: _ => isFlowMark c || c == '?'

/-- The stretch of a word up to white space or a mark, and what follows it. -/
def readStretch (inFlow : Bool) : List Char → Option (List Char × List Char)
  | [] => some ([], [])
  | c :: rest =>
      if isSpaceOrTab c || isBreak c then some ([], c :: rest)
      else if inFlow && c = ':' && clashesWithColon rest then none
      else if c = ':' && atGap rest then some ([], c :: rest)
      else if inFlow && isFlowMark c then some ([], c :: rest)
      else (readStretch inFlow rest).map fun read => (c :: read.1, read.2)

/-- A word, the cursor after it, and whether a line end was passed behind it. -/
structure WordRead where
  text : List Char
  cursor : Cursor
  passedLine : Bool

/-- Reads a word of lines that are indented by `indent` outside of flow collections. -/
def readWordFrom (inFlow : Bool) (indent : Int) :
    (fuel : Nat) → Cursor → Gap → List Char → Option WordRead
  | 0, _, _, _ => none
  | fuel + 1, cursor, gap, text =>
      let stop : WordRead := ⟨text, cursor, gap.onNewLine⟩
      if cursor.atDocumentMark || cursor.chars.head? == some '#' then some stop
      else
        match readStretch inFlow cursor.chars with
        | none => none
        | some ([], _) => some stop
        | some (stretch, rest) =>
            let text := text ++ gap.text ++ stretch
            let cursor := cursor.advance stretch rest
            if atGap rest && rest ≠ [] then
              match readGap indent (rest.length + 1) cursor {} with
              | none => none
              | some (next, gap) =>
                  if !inFlow && (next.column : Int) < indent then
                    some ⟨text, next, gap.onNewLine⟩
                  else readWordFrom inFlow indent fuel next gap text
            else some ⟨text, cursor, false⟩

/-- Reads a word at the cursor, below a collection that is indented by `parentIndent`. -/
def readWord (inFlow : Bool) (parentIndent : Int) (cursor : Cursor) : Option WordRead :=
  readWordFrom inFlow (parentIndent + 1) (cursor.chars.length + 1) cursor {} []

/-! ### Quoted texts -/

def hexDigit? (c : Char) : Option Nat :=
  if c.isDigit then some (c.toNat - 48)
  else if 'a' ≤ c ∧ c ≤ 'f' then some (c.toNat - 87)
  else if 'A' ≤ c ∧ c ≤ 'F' then some (c.toNat - 55)
  else none

/-- The character of a code in hexadecimal digits, unless it is none. -/
def codeChar? (digits : List Char) : Option Char := do
  let values ← digits.mapM hexDigit?
  let code := values.foldl (fun number value => number * 16 + value) 0
  if (0xD800 ≤ code ∧ code ≤ 0xDFFF) ∨ 0x10FFFF < code then none
  else some (Char.ofNat code)

/-- The number of hexadecimal digits after a letter that introduces a code. -/
def codeLength? (letter : Char) : Option Nat :=
  if letter = 'x' then some 2
  else if letter = 'u' then some 4
  else if letter = 'U' then some 8
  else none

def escapedChar? (letter : Char) : Option Char :=
  [('0', '\x00'), ('a', '\x07'), ('b', '\x08'), ('t', '\t'), ('\t', '\t'), ('n', '\n'),
    ('v', '\x0b'), ('f', '\x0c'), ('r', '\r'), ('e', '\x1b'), (' ', ' '), ('"', '"'),
    ('/', '/'), ('\\', '\\'), ('N', '\u0085'), ('_', '\u00a0'), ('L', '\u2028'),
    ('P', '\u2029')].lookup letter

/-- A stretch of a quoted text: its characters, how many were read, and what follows. -/
structure StretchRead where
  text : List Char
  count : Nat
  rest : List Char
  /-- Whether the stretch ends with a backslash before a line end. -/
  joinsLines : Bool := false

/-- Reads up to white space or the closing quote; a doubled quote stands for one. -/
def readSingleStretch : List Char → StretchRead
  | [] => ⟨[], 0, [], false⟩
  | '\'' :: '\'' :: rest =>
      let read := readSingleStretch rest
      { read with text := '\'' :: read.text, count := read.count + 2 }
  | c :: rest =>
      if c = '\'' || isSpaceOrTab c || isBreak c then ⟨[], 0, c :: rest, false⟩
      else
        let read := readSingleStretch rest
        { read with text := c :: read.text, count := read.count + 1 }

/-- Reads up to white space or the closing quote, with escapes; `fuel` bounds the steps. -/
def readDoubleStretch : (fuel : Nat) → List Char → Option StretchRead
  | 0, _ => none
  | _ + 1, [] => some ⟨[], 0, [], false⟩
  | fuel + 1, c :: rest =>
      if c = '"' || isSpaceOrTab c || isBreak c then some ⟨[], 0, c :: rest, false⟩
      else if c = '\\' then
        match rest with
        | [] => none
        | letter :: after =>
            if isBreak letter then some ⟨[], 1, rest, true⟩
            else match codeLength? letter with
              | some length =>
                  if after.length < length then none
                  else match codeChar? (after.take length) with
                    | none => none
                    | some code =>
                        (readDoubleStretch fuel (after.drop length)).map fun read =>
                          { read with
                            text := code :: read.text
                            count := read.count + 2 + length }
              | none =>
                  match escapedChar? letter with
                  | none => none
                  | some meant =>
                      (readDoubleStretch fuel after).map fun read =>
                        { read with text := meant :: read.text, count := read.count + 2 }
      else
        (readDoubleStretch fuel rest).map fun read =>
          { read with text := c :: read.text, count := read.count + 1 }

/-- Reads a quoted text from behind its opening quote to behind its closing one. -/
def readQuotedFrom (quote : Char) :
    (fuel : Nat) → Cursor → List Char → Option (List Char × Cursor)
  | 0, _, _ => none
  | fuel + 1, cursor, text =>
      if cursor.atDocumentMark || cursor.chars = [] then none
      else
        let read? :=
          if quote = '"' then readDoubleStretch (cursor.chars.length + 1) cursor.chars
          else some (readSingleStretch cursor.chars)
        match read? with
        | none => none
        | some read =>
            let text := text ++ read.text
            let cursor := cursor.skip read.count
            if read.joinsLines then
              -- The line end behind the backslash counts for nothing.
              let next := cursor.nextLine
              match readGap 0 (next.chars.length + 1) next { onNewLine := true } with
              | none => none
              | some (next, gap) => readQuotedFrom quote fuel next (text ++ gap.breaks)
            else if read.rest.head? = some quote then some (text, cursor.skip 1)
            else
              match readGap 0 (cursor.chars.length + 1) cursor {} with
              | none => none
              | some (next, gap) => readQuotedFrom quote fuel next (text ++ gap.text)

def readQuoted (quote : Char) (cursor : Cursor) : Option (List Char × Cursor) :=
  readQuotedFrom quote (cursor.chars.length + 1) (cursor.skip 1) []

/-! ### Block texts -/

/-- What becomes of the line ends after the last line of a block text. -/
inductive Chomping where
  | strip
  | clip
  | keep
deriving DecidableEq

/-- The mark at the head of a block text. -/
structure BlockHead where
  chomping : Chomping := .clip
  /-- The indentation given, relative to the collection around the text. -/
  indent : Option Nat := none

def chompingOf? (c : Char) : Option Chomping :=
  if c = '+' then some .keep else if c = '-' then some .strip else none

/-- Reads the marks behind the bar or the angle: chomping and indentation in any order. -/
def readBlockHead (chars : List Char) : Option (BlockHead × Nat) :=
  let digit? (c : Char) : Option Nat := if c.isDigit then some (c.toNat - 48) else none
  let checked (head : BlockHead) (count : Nat) : Option (BlockHead × Nat) :=
    if head.indent = some 0 then none else some (head, count)
  match chars with
  | [] => some ({}, 0)
  | first :: rest =>
      match chompingOf? first, digit? first with
      | some chomping, _ =>
          match rest.head?.bind digit? with
          | some indent => checked ⟨chomping, some indent⟩ 2
          | none => some (⟨chomping, none⟩, 1)
      | none, some indent =>
          match rest.head?.bind chompingOf? with
          | some chomping => checked ⟨chomping, some indent⟩ 2
          | none => checked ⟨.clip, some indent⟩ 1
      | none, none => some ({}, 0)

/-- The empty lines before a line of a block text, and the widest indentation among them. -/
structure Breaks where
  cursor : Cursor
  breaks : List Char
  widest : Nat

/-- Reads empty lines and the indentation up to `indent`, or all of it when none is known. -/
def readBreaks (indent : Option Nat) :
    (fuel : Nat) → Cursor → List Char → Nat → Option Breaks
  | 0, cursor, breaks, widest => some ⟨cursor, breaks, widest⟩
  | fuel + 1, cursor, breaks, widest =>
      let spaces := (cursor.chars.takeWhile fun c => c == ' ').length
      let count := match indent with
        | some indent => min spaces (indent - cursor.column)
        | none => spaces
      let cursor := cursor.skip count
      let widest := max widest cursor.column
      let below := match indent with
        | some indent => decide (cursor.column < indent)
        | none => true
      match cursor.chars with
      | [] => some ⟨cursor, breaks, widest⟩
      | c :: _ =>
          if below && c = '\t' then none
          else if isBreak c then readBreaks indent fuel cursor.nextLine (breaks ++ [c]) widest
          else some ⟨cursor, breaks, widest⟩

/-- What was read of a block text: its lines, and the line ends that are still open. -/
structure BlockState where
  text : List Char := []
  lineEnd : List Char := []
  breaks : List Char := []
  /-- Whether the line before started with white space. -/
  wasIndented : Bool := false

/-- The line ends between the text so far and a line that starts with white space or not. -/
def BlockState.seam (state : BlockState) (folded isIndented : Bool) : List Char :=
  if folded && state.lineEnd == ['\n'] && !state.wasIndented && !isIndented then
    if state.breaks = [] then [' '] else state.breaks
  else state.lineEnd ++ state.breaks

/-- Reads the lines of a block text that start in the column `indent`. -/
def readBlockLines (folded : Bool) (indent : Nat) :
    (fuel : Nat) → Cursor → BlockState → Option (Cursor × BlockState)
  | 0, _, _ => none
  | fuel + 1, cursor, state =>
      if cursor.column ≠ indent ∨ cursor.chars = [] then some (cursor, state)
      else
        let isIndented := (cursor.chars.head?.map isSpaceOrTab).getD false
        let line := cursor.chars.takeWhile fun c => !isBreak c
        let rest := cursor.chars.dropWhile fun c => !isBreak c
        let lineEnd := rest.take 1
        let cursor := cursor.advance line rest
        let cursor := if lineEnd = [] then cursor else cursor.nextLine
        match readBreaks (some indent) (cursor.chars.length + 1) cursor [] 0 with
        | none => none
        | some read =>
            readBlockLines folded indent fuel read.cursor {
              text := state.text ++ state.seam folded isIndented ++ line
              lineEnd := lineEnd
              breaks := read.breaks
              wasIndented := isIndented }

def BlockState.chomp (state : BlockState) : Chomping → List Char
  | .strip => state.text
  | .clip => state.text ++ state.lineEnd
  | .keep => state.text ++ state.lineEnd ++ state.breaks

/-- Reads a block text at its bar or angle, below a collection indented by `parentIndent`. -/
def readBlock (parentIndent : Int) (cursor : Cursor) : Option (List Char × Cursor) := do
  let folded := cursor.chars.head? == some '>'
  let (head, count) ← readBlockHead (cursor.chars.drop 1)
  let cursor := (cursor.skip (1 + count)).skipWhile isSpaceOrTab
  let cursor :=
    if cursor.chars.head? == some '#' then cursor.skipWhile fun c => !isBreak c else cursor
  let cursor ← match cursor.chars with
    | [] => some cursor
    | c :: _ => if isBreak c then some cursor.nextLine else none
  let given := head.indent.map fun indent =>
    if 0 ≤ parentIndent then parentIndent.toNat + indent else indent
  let read ← readBreaks given (cursor.chars.length + 1) cursor [] 0
  let indent := given.getD (max (max read.widest (parentIndent + 1).toNat) 1)
  let (cursor, state) ← readBlockLines folded indent (read.cursor.chars.length + 1)
    read.cursor { breaks := read.breaks }
  pure (state.chomp head.chomping, cursor)

end Stanza.Yaml
