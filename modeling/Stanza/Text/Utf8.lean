set_option autoImplicit false

/-!
Reading bytes as UTF-8 without ever failing. Bytes that begin a character and cannot be
completed stand for one replacement character together, and so does every byte that
begins none. The ranges leave out overlong forms, surrogates and numbers above U+10FFFF.
-/

namespace Stanza.Text.Utf8

/-- A character of which some bytes have been read. -/
structure Pending where
  /-- The number of bytes still missing. -/
  missing : Nat
  /-- The bounds of the next byte. -/
  least : Nat
  greatest : Nat
  /-- The bits so far. -/
  bits : Nat
deriving DecidableEq, Repr

/-- What a byte above U+007F begins. -/
def pending? (byte : Nat) : Option Pending :=
  if 0xC2 ≤ byte ∧ byte ≤ 0xDF then some ⟨1, 0x80, 0xBF, byte - 0xC0⟩
  else if 0xE0 ≤ byte ∧ byte ≤ 0xEF then
    some ⟨2, if byte = 0xE0 then 0xA0 else 0x80, if byte = 0xED then 0x9F else 0xBF,
      byte - 0xE0⟩
  else if 0xF0 ≤ byte ∧ byte ≤ 0xF4 then
    some ⟨3, if byte = 0xF0 then 0x90 else 0x80, if byte = 0xF4 then 0x8F else 0xBF,
      byte - 0xF0⟩
  else none

/-- The character in the place of bytes that are none. -/
def replacement : Char := '\ufffd'

/-- Reads a byte where no character is pending. -/
def begin (byte : Nat) : List Char × Option Pending :=
  if byte < 0x80 then ([Char.ofNat byte], none)
  else match pending? byte with
    | some pending => ([], some pending)
    | none => ([replacement], none)

/-- Reads a byte, with the characters that it completes. -/
def step (state : Option Pending) (byte : Nat) : List Char × Option Pending :=
  match state with
  | none => begin byte
  | some ⟨missing, least, greatest, bits⟩ =>
      if least ≤ byte ∧ byte ≤ greatest then
        let bits := bits * 64 + (byte - 0x80)
        if missing ≤ 1 then ([Char.ofNat bits], none)
        else ([], some ⟨missing - 1, 0x80, 0xBF, bits⟩)
      else
        let (chars, next) := begin byte
        (replacement :: chars, next)

def decodeFrom (state : Option Pending) : List Nat → List Char
  | [] => if state.isSome then [replacement] else []
  | byte :: rest =>
      let (chars, next) := step state byte
      chars ++ decodeFrom next rest

/-- The text of bytes, with replacement characters where they are not UTF-8. -/
def decode (bytes : List Nat) : String := String.ofList (decodeFrom none bytes)

end Stanza.Text.Utf8
