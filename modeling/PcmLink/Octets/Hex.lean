import PcmLink.Text.Numeral

/-!
# Bytes in hexadecimal

Two lowercase digits a byte, the high half first. Reading takes digits of either case and refuses
an odd digit. Reading what was written gives the bytes back.
-/

namespace PcmLink.Hex

/-- The two digits of a byte. -/
def byteDigits (byte : UInt8) : List Char :=
  [Nat.digitChar (byte.toNat / 16), Nat.digitChar (byte.toNat % 16)]

/-- The digits of bytes. -/
def encode (bytes : List UInt8) : List Char := bytes.flatMap byteDigits

/-- The digits of bytes as text. -/
def text (bytes : List UInt8) : String := String.ofList (encode bytes)

/-- The bytes that digits write. -/
def decode : List Char → Option (List UInt8)
  | [] => some []
  | [_] => none
  | high :: low :: rest => do
    let h ← Text.digit? 16 high
    let l ← Text.digit? 16 low
    let bytes ← decode rest
    some (UInt8.ofNat (h * 16 + l) :: bytes)

/-- A digit written is a digit read. -/
theorem digit?_digitChar : ∀ n < 16, Text.digit? 16 (Nat.digitChar n) = some n := by decide

/-- Reading the digits of bytes gives the bytes back. -/
theorem decode_encode (bytes : List UInt8) : decode (encode bytes) = some bytes := by
  induction bytes with
  | nil => rfl
  | cons byte bytes ih =>
    have bound := byte.toNat_lt
    have whole : byte.toNat / 16 * 16 + byte.toNat % 16 = byte.toNat := by omega
    simp only [encode] at ih
    simp [encode, byteDigits, decode, digit?_digitChar (byte.toNat / 16) (by omega),
      digit?_digitChar (byte.toNat % 16) (by omega), ih, whole, -UInt8.ofNat_add,
      -UInt8.ofNat_mul]

/-- Two digits are written for each byte. -/
theorem length_encode (bytes : List UInt8) : (encode bytes).length = 2 * bytes.length := by
  induction bytes with
  | nil => rfl
  | cons byte bytes ih =>
    simp only [encode] at ih
    simp only [encode, List.flatMap_cons, List.length_append, ih, byteDigits, List.length_cons,
      List.length_nil]
    omega

end PcmLink.Hex
