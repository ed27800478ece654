/-
# Lowercase hexadecimal

Keys and transactions are stored as lowercase hexadecimal text. A text is read
back only when it has exactly two lowercase digits for each byte, so every byte
string has one text and the text gives the bytes back.
-/

import Mathlib.Tactic.Common
import Mathlib.Tactic.IntervalCases

namespace Deskkin

/-- A text, character by character. -/
abbrev Text := List Char

def hexDigit (value : ℕ) : Char := "0123456789abcdef".toList.getD value '0'

def hex (bytes : List UInt8) : Text :=
  bytes.flatMap fun byte => [hexDigit (byte.toNat / 16), hexDigit (byte.toNat % 16)]

def isLowerHexDigit (character : Char) : Bool :=
  decide ('0' ≤ character ∧ character ≤ '9') || decide ('a' ≤ character ∧ character ≤ 'f')

/-- A text of exactly so many bytes in lowercase hexadecimal. -/
def validateHex (value : Text) (bytes : ℕ) : Bool :=
  decide (value.length = bytes * 2) && value.all isLowerHexDigit

def hexValue (character : Char) : ℕ :=
  if character ≤ '9' then character.toNat - '0'.toNat else character.toNat - 'a'.toNat + 10

def decodePairs : Text → List UInt8
  | high :: low :: rest =>
      UInt8.ofNat (hexValue high * 16 + hexValue low) :: decodePairs rest
  | _ => []

def decodeHex (value : Text) : Option (List UInt8) :=
  if validateHex value (value.length / 2) then some (decodePairs value) else none

theorem isLowerHexDigit_hexDigit {value : ℕ} (small : value < 16) :
    isLowerHexDigit (hexDigit value) = true := by
  interval_cases value <;> rfl

theorem hexValue_hexDigit {value : ℕ} (small : value < 16) :
    hexValue (hexDigit value) = value := by
  interval_cases value <;> rfl

variable (bytes : List UInt8)

theorem length_hex : (hex bytes).length = bytes.length * 2 := by
  induction bytes with
  | nil => rfl
  | cons byte rest ih =>
      rw [hex, List.flatMap_cons, List.length_append, ← hex, ih]
      simp only [List.length_cons, List.length_nil]
      omega

theorem validateHex_hex {bytes : List UInt8} {length : ℕ} (exact : bytes.length = length) :
    validateHex (hex bytes) length = true := by
  have digits : (hex bytes).all isLowerHexDigit = true := by
    rw [List.all_eq_true]
    intro character member
    obtain ⟨byte, _, member⟩ := List.mem_flatMap.mp member
    have bound := byte.toNat_lt
    rcases List.mem_cons.mp member with rfl | member
    · exact isLowerHexDigit_hexDigit (by omega)
    · rw [List.mem_singleton.mp member]
      exact isLowerHexDigit_hexDigit (by omega)
  rw [validateHex, digits, length_hex, exact]
  simp

theorem decodePairs_hex : decodePairs (hex bytes) = bytes := by
  induction bytes with
  | nil => rfl
  | cons byte rest ih =>
      have bound := byte.toNat_lt
      change UInt8.ofNat (hexValue (hexDigit (byte.toNat / 16)) * 16 +
        hexValue (hexDigit (byte.toNat % 16))) :: decodePairs (hex rest) = byte :: rest
      rw [ih, hexValue_hexDigit (by omega), hexValue_hexDigit (by omega)]
      have whole : byte.toNat / 16 * 16 + byte.toNat % 16 = byte.toNat := by omega
      rw [whole, UInt8.ofNat_toNat]

/-- Reading a text that was written gives the bytes back. -/
theorem decodeHex_hex : decodeHex (hex bytes) = some bytes := by
  have valid : validateHex (hex bytes) ((hex bytes).length / 2) = true := by
    apply validateHex_hex
    rw [length_hex]
    omega
  rw [decodeHex, if_pos valid, decodePairs_hex]

end Deskkin
