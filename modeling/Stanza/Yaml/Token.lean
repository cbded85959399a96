import Stanza.Yaml.Scalar

set_option autoImplicit false

/-!
The tokens of a YAML text. Indentation opens and closes block collections. A scalar or
a collection may turn out to be a key when a colon follows on its line; then the tokens
that make it one are put in before it.
-/

namespace Stanza.Yaml

inductive Token where
  | documentStart
  | documentEnd
  | streamEnd
  | blockSequenceStart
  | blockMappingStart
  | blockEnd
  | flowSequenceStart
  | flowSequenceEnd
  | flowMappingStart
  | flowMappingEnd
  | blockEntry
  | flowEntry
  | key
  | value
  | word (text : String)
  | quoted (text : String)
deriving DecidableEq, Repr

/-- A place where a key may have started. -/
structure KeyStart where
  /-- How many tokens stand before it. -/
  tokens : Nat
  offset : Nat
  line : Nat
  column : Nat
  /-- Whether the indentation leaves nothing else but a key here. -/
  required : Bool

structure Reader where
  cursor : Cursor
  /-- The tokens so far, the last one first. -/
  tokens : List Token := []
  /-- The column of the innermost block collection, `-1` outside of all. -/
  indent : Int := -1
  outerIndents : List Int := []
  /-- For each flow collection around, innermost first, and for the text itself. -/
  keyStarts : List (Option KeyStart) := [none]
  keyAllowed : Bool := true

namespace Reader

def flowDepth (reader : Reader) : Nat := reader.keyStarts.length - 1

def inFlow (reader : Reader) : Bool := reader.flowDepth != 0

def push (reader : Reader) (token : Token) : Reader :=
  { reader with tokens := token :: reader.tokens }

/-- Puts tokens in after the first `count` ones. -/
def insertAt (reader : Reader) (count : Nat) (added : List Token) : Reader :=
  let later := reader.tokens.length - count
  { reader with
    tokens := reader.tokens.take later ++ added.reverse ++ reader.tokens.drop later }

/-! ### Indentation -/

/-- Opens a block collection when its column lies right of the one around. -/
def openBlock (reader : Reader) (column : Int) : Option Reader :=
  if !reader.inFlow && reader.indent < column then
    some { reader with indent := column, outerIndents := reader.indent :: reader.outerIndents }
  else none

/-- Closes the block collections right of a column. -/
def closeBlocks (column : Int) : List Int → Reader → Reader
  | [], reader => reader
  | outer :: others, reader =>
      if reader.indent ≤ column then reader
      else
        closeBlocks column others
          { reader.push .blockEnd with indent := outer, outerIndents := others }

def unrollIndent (reader : Reader) (column : Int) : Reader :=
  if reader.inFlow then reader else closeBlocks column reader.outerIndents reader

/-! ### Keys -/

/-- A key must end on its line, within 1024 bytes. -/
def isStale (reader : Reader) (start : KeyStart) : Bool :=
  start.line < reader.cursor.line || start.offset + 1024 < reader.cursor.offset

/-- Forgets the places whose line is over; there must have been a key where one is required. -/
def dropStaleKeys (reader : Reader) : Option Reader :=
  let isMissing : Option KeyStart → Bool
    | some start => reader.isStale start && start.required
    | none => false
  let keep : Option KeyStart → Option KeyStart
    | some start => if reader.isStale start then none else some start
    | none => none
  if reader.keyStarts.any isMissing then none
  else some { reader with keyStarts := reader.keyStarts.map keep }

def setKeyStart (reader : Reader) (start : Option KeyStart) : Reader :=
  { reader with keyStarts := start :: reader.keyStarts.drop 1 }

def keyStart? (reader : Reader) : Option KeyStart := reader.keyStarts.head?.bind id

/-- Gives up the place where a key may have started. -/
def dropKey (reader : Reader) : Option Reader :=
  match reader.keyStart? with
  | some start => if start.required then none else some (reader.setKeyStart none)
  | none => some reader

/-- Notes that a key may start here. -/
def saveKey (reader : Reader) : Option Reader :=
  if reader.keyAllowed then do
    let required := !reader.inFlow && reader.indent == (reader.cursor.column : Int)
    let reader ← reader.dropKey
    pure (reader.setKeyStart (some {
      tokens := reader.tokens.length
      offset := reader.cursor.offset
      line := reader.cursor.line
      column := reader.cursor.column
      required := required }))
  else some reader

/-! ### Single tokens -/

def take (reader : Reader) (token : Token) (count : Nat) : Reader :=
  { reader.push token with cursor := reader.cursor.skip count }

def readDocumentMark (reader : Reader) : Option Reader := do
  let reader ← (reader.unrollIndent (-1)).dropKey
  let token := if reader.cursor.chars.head? == some '-' then .documentStart else .documentEnd
  pure { reader.take token 3 with keyAllowed := false }

def readFlowStart (reader : Reader) (token : Token) : Option Reader := do
  let reader ← reader.saveKey
  pure { reader.take token 1 with
    keyStarts := none :: reader.keyStarts
    keyAllowed := true }

def readFlowEnd (reader : Reader) (token : Token) : Option Reader := do
  let reader ← reader.dropKey
  let outer := if reader.inFlow then reader.keyStarts.drop 1 else reader.keyStarts
  pure { reader.take token 1 with keyStarts := outer, keyAllowed := false }

def readFlowEntry (reader : Reader) : Option Reader := do
  let reader ← reader.dropKey
  pure { reader.take .flowEntry 1 with keyAllowed := true }

/-- Opens a block collection at the cursor, where its first mark stands. -/
def openHere (reader : Reader) (token : Token) : Reader :=
  match reader.openBlock reader.cursor.column with
  | some opened => opened.push token
  | none => reader

def readBlockEntry (reader : Reader) : Option Reader :=
  if reader.inFlow || reader.keyAllowed then do
    let reader ← (reader.openHere .blockSequenceStart).dropKey
    pure { reader.take .blockEntry 1 with keyAllowed := true }
  else none

def readKeyMark (reader : Reader) : Option Reader :=
  if reader.inFlow || reader.keyAllowed then do
    let reader ← (reader.openHere .blockMappingStart).dropKey
    pure { reader.take .key 1 with keyAllowed := !reader.inFlow }
  else none

/-- A colon makes a key of what started on its line, or stands after an explicit key. -/
def readValueMark (reader : Reader) : Option Reader :=
  match reader.keyStart? with
  | some start =>
      let reader := match reader.openBlock start.column with
        | some opened => opened.insertAt start.tokens [.blockMappingStart, .key]
        | none => reader.insertAt start.tokens [.key]
      some { (reader.setKeyStart none).take .value 1 with keyAllowed := false }
  | none =>
      if reader.inFlow || reader.keyAllowed then
        let reader := reader.openHere .blockMappingStart
        some { reader.take .value 1 with keyAllowed := !reader.inFlow }
      else none

def readBlockText (reader : Reader) : Option Reader := do
  let reader ← reader.dropKey
  let (text, cursor) ← readBlock reader.indent reader.cursor
  pure { reader.push (.quoted (String.ofList text)) with cursor := cursor, keyAllowed := true }

def readQuotedText (reader : Reader) (quote : Char) : Option Reader := do
  let reader ← reader.saveKey
  let (text, cursor) ← readQuoted quote reader.cursor
  pure { reader.push (.quoted (String.ofList text)) with cursor := cursor, keyAllowed := false }

def readPlainWord (reader : Reader) : Option Reader := do
  let reader ← reader.saveKey
  let read ← readWord reader.inFlow reader.indent reader.cursor
  pure { reader.push (.word (String.ofList read.text)) with
    cursor := read.cursor
    keyAllowed := read.passedLine }

/-! ### The whole text -/

/--
Skips blanks, comments, line ends and the byte order marks at the start of lines. Outside
of flow collections a new line may start a key.
-/
def skipToToken : (fuel : Nat) → Reader → Reader
  | 0, reader => reader
  | fuel + 1, reader =>
      let isBlank (c : Char) : Bool :=
        c == ' ' || ((reader.inFlow || !reader.keyAllowed) && c == '\t')
      let cursor := reader.cursor.skipByteOrderMark.skipWhile isBlank
      let cursor :=
        if cursor.chars.head? == some '#' then cursor.skipWhile fun c => !isBreak c else cursor
      match cursor.chars with
      | [] => { reader with cursor := cursor }
      | c :: _ =>
          if isBreak c then
            skipToToken fuel { reader with
              cursor := cursor.nextLine
              keyAllowed := reader.keyAllowed || !reader.inFlow }
          else { reader with cursor := cursor }

/-- The characters that cannot start a word, apart from dash, question mark and colon. -/
def reserved : List Char :=
  [',', '[', ']', '\x7b', '\x7d', '#', '&', '*', '!', '|', '>', '\'', '"', '%', '@', '\x60']

/-- Whether a word may start here. -/
def startsWord (inFlow : Bool) : List Char → Bool
  | [] => false
  | c :: rest =>
      if c = '-' then !(rest.head?.map isSpaceOrTab).getD false
      else if c = '?' ∨ c = ':' then !inFlow && !atGap rest
      else !(isSpaceOrTab c || isBreak c || reserved.contains c)

def readToken (reader : Reader) : Option Reader :=
  let chars := reader.cursor.chars
  if reader.cursor.atDocumentMark then reader.readDocumentMark
  else match chars with
    | [] => none
    | c :: rest =>
        let standsAlone := reader.inFlow || atGap rest
        if reader.cursor.column = 0 ∧ c = '%' then none
        else if c = '[' then reader.readFlowStart .flowSequenceStart
        else if c = '\x7b' then reader.readFlowStart .flowMappingStart
        else if c = ']' then reader.readFlowEnd .flowSequenceEnd
        else if c = '\x7d' then reader.readFlowEnd .flowMappingEnd
        else if c = ',' then reader.readFlowEntry
        else if c = '-' && atGap rest then reader.readBlockEntry
        else if c = '?' && standsAlone then reader.readKeyMark
        else if c = ':' && standsAlone then reader.readValueMark
        else if (c = '|' ∨ c = '>') ∧ !reader.inFlow then reader.readBlockText
        else if c = '\'' ∨ c = '"' then reader.readQuotedText c
        else if startsWord reader.inFlow chars then reader.readPlainWord
        else none

/-- Closes everything at the end of the text. -/
def finish (reader : Reader) : Option Reader := do
  let reader ← (reader.unrollIndent (-1)).dropKey
  pure (reader.push .streamEnd)

/-- Reads token after token; each takes at least one character. -/
def readAll : (fuel : Nat) → Reader → Option Reader
  | 0, _ => none
  | fuel + 1, reader =>
      match (skipToToken (reader.cursor.chars.length + 1) reader).dropStaleKeys with
      | none => none
      | some reader =>
          let reader := reader.unrollIndent reader.cursor.column
          if reader.cursor.chars = [] then reader.finish
          else
            match reader.readToken with
            | some next => readAll fuel next
            | none => none

end Reader

/-- The tokens of a text, with the end of the stream as the last one. -/
def tokens? (chars : List Char) : Option (List Token) :=
  (Reader.readAll (chars.length + 2) { cursor := { chars := chars } }).map fun reader =>
    reader.tokens.reverse

end Stanza.Yaml
