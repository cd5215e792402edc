/-!
# Characters as bytes

Reading bytes as UTF-8. A lead byte says how many continuation bytes follow and what range the
first of them may have; these ranges rule out long forms, surrogates and numbers beyond the last
character, so every list of characters has one encoding.
-/

namespace PcmLink.Text.Utf8

/-- The bytes of a text. -/
def encode (text : String) : List UInt8 := text.toUTF8.data.toList

/-- Read characters when `owed` continuation bytes of a character are outstanding: `value` holds
its bits so far, and the next byte must lie between `low` and `high`. -/
def decodeFrom (owed value low high : Nat) : List UInt8 → Option (List Char)
  | [] => if owed = 0 then some [] else none
  | byte :: rest =>
    let b := byte.toNat
    if owed = 0 then
      if b ≤ 0x7f then (decodeFrom 0 0 0 0 rest).map (Char.ofNat b :: ·)
      else if 0xc2 ≤ b ∧ b ≤ 0xdf then decodeFrom 1 (b - 0xc0) 0x80 0xbf rest
      else if b = 0xe0 then decodeFrom 2 0 0xa0 0xbf rest
      else if b = 0xed then decodeFrom 2 0x0d 0x80 0x9f rest
      else if 0xe1 ≤ b ∧ b ≤ 0xef then decodeFrom 2 (b - 0xe0) 0x80 0xbf rest
      else if b = 0xf0 then decodeFrom 3 0 0x90 0xbf rest
      else if 0xf1 ≤ b ∧ b ≤ 0xf3 then decodeFrom 3 (b - 0xf0) 0x80 0xbf rest
      else if b = 0xf4 then decodeFrom 3 4 0x80 0x8f rest
      else none
    else if low ≤ b ∧ b ≤ high then
      let bits := value * 0x40 + (b - 0x80)
      if owed = 1 then (decodeFrom 0 0 0 0 rest).map (Char.ofNat bits :: ·)
      else decodeFrom (owed - 1) bits 0x80 0xbf rest
    else none

/-- The characters that the bytes encode, if they are UTF-8. -/
def decode (bytes : List UInt8) : Option (List Char) := decodeFrom 0 0 0 0 bytes

/-- The text that the bytes encode, if they are UTF-8. -/
def decodeText (bytes : List UInt8) : Option String := (decode bytes).map String.ofList

end PcmLink.Text.Utf8
