import Stanza.Yaml.Token
import Stanza.Yaml.Word

set_option autoImplicit false

/-!
The document of a YAML text. A text holds one document at most; an empty text is an empty
word. Where all of a document is looked into, its collections are at most 128 deep.
-/

namespace Stanza.Yaml

/-- The empty word, where a node is left out. -/
def emptyWord : Document := .word "" .null

def isOneOf (kinds : List Token) : List Token → Bool
  | [] => true
  | token :: _ => kinds.contains token

/-- A part of a document, and the tokens behind it. -/
abbrev Parsed (α : Type) := Option (α × List Token)

mutual
/--
Reads a node. Block collections may start only where `block` holds, and a sequence
without indentation of its own only where `indentless` holds.
-/
def readNode (block indentless : Bool) : (fuel : Nat) → List Token → Parsed Document
  | 0, _ => none
  | fuel + 1, tokens =>
      match tokens with
      | .word text :: rest => some (.word text (meaning text), rest)
      | .quoted text :: rest => some (.quoted text, rest)
      | .flowSequenceStart :: rest =>
          (readFlowItems true fuel rest).map fun read => (.list read.1, read.2)
      | .flowMappingStart :: rest =>
          (readFlowEntries true fuel rest).map fun read => (.map read.1, read.2)
      | .blockSequenceStart :: rest =>
          if block then (readBlockItems fuel rest).map fun read => (.list read.1, read.2)
          else none
      | .blockMappingStart :: rest =>
          if block then (readBlockEntries fuel rest).map fun read => (.map read.1, read.2)
          else none
      | .blockEntry :: _ =>
          if indentless then
            (readIndentlessItems fuel tokens).map fun read => (.list read.1, read.2)
          else none
      | _ => none
termination_by structural fuel => fuel

/-- Reads a node, or nothing before one of the given tokens. -/
def readOptional (block indentless : Bool) (before : List Token) :
    (fuel : Nat) → List Token → Parsed Document
  | 0, _ => none
  | fuel + 1, tokens =>
      if isOneOf before tokens then some (emptyWord, tokens)
      else readNode block indentless fuel tokens
termination_by structural fuel => fuel

def readBlockItems : (fuel : Nat) → List Token → Parsed (List Document)
  | 0, _ => none
  | fuel + 1, tokens =>
      match tokens with
      | .blockEntry :: rest =>
          match readOptional true false [.blockEntry, .blockEnd] fuel rest with
          | none => none
          | some (item, rest) =>
              (readBlockItems fuel rest).map fun read => (item :: read.1, read.2)
      | .blockEnd :: rest => some ([], rest)
      | _ => none
termination_by structural fuel => fuel

def readIndentlessItems : (fuel : Nat) → List Token → Parsed (List Document)
  | 0, _ => none
  | fuel + 1, tokens =>
      match tokens with
      | .blockEntry :: rest =>
          match readOptional true false [.blockEntry, .key, .value, .blockEnd] fuel rest with
          | none => none
          | some (item, rest) =>
              (readIndentlessItems fuel rest).map fun read => (item :: read.1, read.2)
      | _ => some ([], tokens)
termination_by structural fuel => fuel

def readBlockEntries : (fuel : Nat) → List Token → Parsed (List (Document × Document))
  | 0, _ => none
  | fuel + 1, tokens =>
      match tokens with
      | .key :: rest =>
          match readOptional true true [.key, .value, .blockEnd] fuel rest with
          | none => none
          | some (key, rest) =>
              match readValue true [.key, .value, .blockEnd] fuel rest with
              | none => none
              | some (value, rest) =>
                  (readBlockEntries fuel rest).map fun read => ((key, value) :: read.1, read.2)
      | .blockEnd :: rest => some ([], rest)
      | _ => none
termination_by structural fuel => fuel

/-- Reads the value behind a key; without a colon it is left out. -/
def readValue (block : Bool) (before : List Token) :
    (fuel : Nat) → List Token → Parsed Document
  | 0, _ => none
  | fuel + 1, tokens =>
      match tokens with
      | .value :: rest => readOptional block block before fuel rest
      | _ => some (emptyWord, tokens)
termination_by structural fuel => fuel

/-- Reads the items of a flow sequence; between two of them a comma stands. -/
def readFlowItems (first : Bool) : (fuel : Nat) → List Token → Parsed (List Document)
  | 0, _ => none
  | fuel + 1, tokens =>
      match tokens with
      | .flowSequenceEnd :: rest => some ([], rest)
      | _ =>
          let rest? := if first then some tokens else match tokens with
            | .flowEntry :: rest => some rest
            | _ => none
          match rest? with
          | none => none
          | some (.flowSequenceEnd :: rest) => some ([], rest)
          | some rest =>
              match readFlowItem fuel rest with
              | none => none
              | some (item, rest) =>
                  (readFlowItems false fuel rest).map fun read => (item :: read.1, read.2)
termination_by structural fuel => fuel

/-- Reads an item of a flow sequence; one with a key is a map of a single entry. -/
def readFlowItem : (fuel : Nat) → List Token → Parsed Document
  | 0, _ => none
  | fuel + 1, tokens =>
      match tokens with
      | .key :: rest =>
          -- A key that is left out takes the token in its place with it.
          let key? := if isOneOf [.value, .flowEntry, .flowSequenceEnd] rest
            then some (emptyWord, rest.drop 1)
            else readNode false false fuel rest
          match key? with
          | none => none
          | some (key, rest) =>
              (readValue false [.flowEntry, .flowSequenceEnd] fuel rest).map fun read =>
                (.map [(key, read.1)], read.2)
      | _ => readNode false false fuel tokens
termination_by structural fuel => fuel

/-- Reads the entries of a flow mapping; between two of them a comma stands. -/
def readFlowEntries (first : Bool) :
    (fuel : Nat) → List Token → Parsed (List (Document × Document))
  | 0, _ => none
  | fuel + 1, tokens =>
      match tokens with
      | .flowMappingEnd :: rest => some ([], rest)
      | _ =>
          let rest? := if first then some tokens else match tokens with
            | .flowEntry :: rest => some rest
            | _ => none
          match rest? with
          | none => none
          | some (.flowMappingEnd :: rest) => some ([], rest)
          | some rest =>
              match readFlowEntry fuel rest with
              | none => none
              | some (entry, rest) =>
                  (readFlowEntries false fuel rest).map fun read => (entry :: read.1, read.2)
termination_by structural fuel => fuel

/-- Reads an entry of a flow mapping; a node without a colon is a key without a value. -/
def readFlowEntry : (fuel : Nat) → List Token → Parsed (Document × Document)
  | 0, _ => none
  | fuel + 1, tokens =>
      match tokens with
      | .key :: rest =>
          match readOptional false false [.value, .flowEntry, .flowMappingEnd] fuel rest with
          | none => none
          | some (key, rest) =>
              (readValue false [.flowEntry, .flowMappingEnd] fuel rest).map fun read =>
                ((key, read.1), read.2)
      | _ => (readNode false false fuel tokens).map fun read => ((read.1, emptyWord), read.2)
termination_by structural fuel => fuel
end

/-- Whether nothing but ends of the document and the end of the stream is left. -/
def atEnd : List Token → Bool
  | .documentEnd :: rest => atEnd rest
  | [.streamEnd] => true
  | _ => false

/-- Reads the content of a document behind the mark that may open it. -/
def readContent (fuel : Nat) (tokens : List Token) : Parsed Document :=
  match tokens with
  | [.streamEnd] => some (emptyWord, tokens)
  | .documentStart :: rest =>
      readOptional true false [.documentStart, .documentEnd, .streamEnd] fuel rest
  | _ => readNode true false fuel tokens

/-- Reads a whole text as one document. Each step of the reading takes or passes a token. -/
def parse? (text : String) : Option Document := do
  let chars ← prepare? text
  let tokens ← tokens? chars
  let (document, rest) ← readContent (4 * tokens.length + 8) tokens
  if atEnd rest then some document else none

/-- How deep collections that are looked into may stand within each other. -/
def depthLimit : Nat := 128

/-- Reads a whole text as one document that is looked into everywhere. -/
def read? (text : String) : Option Document := (parse? text).bind (Document.within? depthLimit)

end Stanza.Yaml
