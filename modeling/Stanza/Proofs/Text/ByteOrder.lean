import Mathlib.Data.List.Lex
import Mathlib.Data.String.Basic

set_option autoImplicit false

/-!
Texts in order of their bytes. In UTF-8 the order of the bytes is that of the characters: of
two characters the smaller one is the smaller one from the first byte in which they differ,
whatever follows.
-/

namespace Stanza.Text

/-- The bytes of a text in UTF-8. -/
def bytes (text : String) : List Nat := text.toUTF8.data.toList.map UInt8.toNat

def charBytes (c : Char) : List Nat := (String.utf8EncodeChar c).map UInt8.toNat

theorem bytes_eq_flatMap (text : String) : bytes text = text.toList.flatMap charBytes := by
  rw [bytes, String.toUTF8_eq_toByteArray, ← String.utf8Encode_toList, List.utf8Encode,
    List.data_toByteArray, List.map_flatMap]
  rfl

theorem toNat_lt (c : Char) : c.toNat < 1114112 := by
  rcases c.valid with low | ⟨_, high⟩
  · exact Nat.lt_trans low (by decide)
  · exact high

/-- The bytes of a character by its number: the first one tells how many there are. -/
theorem charBytes_eq (c : Char) : charBytes c =
    if c.toNat ≤ 127 then [c.toNat]
    else if c.toNat ≤ 2047 then [c.toNat / 64 % 32 + 192, c.toNat % 64 + 128]
    else if c.toNat ≤ 65535 then
      [c.toNat / 4096 % 16 + 224, c.toNat / 64 % 64 + 128, c.toNat % 64 + 128]
    else [c.toNat / 262144 % 8 + 240, c.toNat / 4096 % 64 + 128, c.toNat / 64 % 64 + 128,
      c.toNat % 64 + 128] := by
  have bounded := toNat_lt c
  have number : c.val.toNat = c.toNat := rfl
  simp only [charBytes, String.utf8EncodeChar, number]
  split_ifs <;>
    simp (disch := omega) only [List.map_cons, List.map_nil, UInt8.toNat_ofNat', Nat.mod_eq_of_lt]

theorem charBytes_append_lt {c d : Char} (before : c < d) (front back : List Nat) :
    charBytes c ++ front < charBytes d ++ back := by
  have less : c.toNat < d.toNat := before
  have bounded := toNat_lt d
  -- Of two numbers with as many digits of six bits the first digit that differs decides.
  have digits (number : Nat) :
      number / 4096 = number / 64 / 64 ∧ number / 262144 = number / 64 / 64 / 64 := by omega
  rw [charBytes_eq, charBytes_eq, (digits _).1, (digits _).2, (digits _).1, (digits _).2]
  split_ifs <;> simp only [List.cons_append, List.nil_append, List.cons_lt_cons_iff] <;> omega

theorem charBytes_ne_nil (c : Char) : charBytes c ≠ [] := by
  rw [charBytes_eq]
  split_ifs <;> simp

theorem flatMap_charBytes_lt {left right : List Char} (before : left < right) :
    left.flatMap charBytes < right.flatMap charBytes := by
  induction before with
  | @nil c rest =>
      rw [List.flatMap_nil, List.flatMap_cons]
      cases first : charBytes c with
      | nil => exact absurd first (charBytes_ne_nil c)
      | cons byte others => exact List.nil_lt_cons _ _
  | cons _ ih =>
      rw [List.flatMap_cons, List.flatMap_cons]
      exact List.append_left_lt ih
  | rel less =>
      rw [List.flatMap_cons, List.flatMap_cons]
      exact charBytes_append_lt less _ _

theorem bytes_strictMono : StrictMono bytes := by
  intro left right before
  rw [bytes_eq_flatMap, bytes_eq_flatMap]
  exact flatMap_charBytes_lt (String.lt_iff_toList_lt.mp before)

/-- Texts are in order of their bytes as they are in order of their characters. -/
theorem bytes_lt_bytes_iff {left right : String} : bytes left < bytes right ↔ left < right :=
  bytes_strictMono.lt_iff_lt

end Stanza.Text
