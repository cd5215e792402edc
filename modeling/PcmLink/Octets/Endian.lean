/-!
# Words as bytes

Sixteen-bit and thirty-two-bit words in the two byte orders, and back. Reading the bytes of a word
in the order they were written in gives the word back.
-/

namespace PcmLink

/-- The order of the bytes of a word. -/
inductive ByteOrder where
  /-- Most significant byte first. -/
  | big
  /-- Least significant byte first. -/
  | little
  deriving DecidableEq, Repr

namespace Octets

/-- The low byte of a sixteen-bit word. -/
def low16 (word : UInt16) : UInt8 := UInt8.ofNat (word.toNat % 256)

/-- The high byte of a sixteen-bit word. -/
def high16 (word : UInt16) : UInt8 := UInt8.ofNat (word.toNat / 256)

/-- A sixteen-bit word from its high and low byte. -/
def word16 (high low : UInt8) : UInt16 := UInt16.ofNat (high.toNat * 256 + low.toNat)

/-- The two bytes of a word, in an order. -/
def encode16 (order : ByteOrder) (word : UInt16) : List UInt8 :=
  match order with
  | .big => [high16 word, low16 word]
  | .little => [low16 word, high16 word]

/-- The word of two bytes, in an order. -/
def decode16 (order : ByteOrder) (first second : UInt8) : UInt16 :=
  match order with
  | .big => word16 first second
  | .little => word16 second first

/-- A word with its two bytes exchanged. -/
def swap16 (word : UInt16) : UInt16 := word16 (low16 word) (high16 word)

/-- The four bytes of a word, least significant first. -/
def encode32 (word : UInt32) : List UInt8 :=
  [UInt8.ofNat (word.toNat % 256), UInt8.ofNat (word.toNat / 256 % 256),
    UInt8.ofNat (word.toNat / 65536 % 256), UInt8.ofNat (word.toNat / 16777216 % 256)]

/-- The number of bytes written least significant first. -/
def decodeNat : List UInt8 → Nat
  | [] => 0
  | byte :: rest => byte.toNat + 256 * decodeNat rest

/-- The low byte of a composed word is the low byte given. -/
@[simp] theorem low16_word16 (high low : UInt8) : low16 (word16 high low) = low := by
  have h := high.toNat_lt
  have l := low.toNat_lt
  apply UInt8.toNat_inj.mp
  simp only [low16, word16, UInt16.toNat_ofNat', UInt8.toNat_ofNat']
  omega

/-- The high byte of a composed word is the high byte given. -/
@[simp] theorem high16_word16 (high low : UInt8) : high16 (word16 high low) = high := by
  have h := high.toNat_lt
  have l := low.toNat_lt
  apply UInt8.toNat_inj.mp
  simp only [high16, word16, UInt16.toNat_ofNat', UInt8.toNat_ofNat']
  omega

/-- A word is composed of its two bytes. -/
@[simp] theorem word16_high16_low16 (word : UInt16) : word16 (high16 word) (low16 word) = word := by
  have bound := word.toNat_lt
  apply UInt16.toNat_inj.mp
  simp only [high16, low16, word16, UInt16.toNat_ofNat', UInt8.toNat_ofNat']
  omega

/-- The number of the four bytes of a word is the word. -/
theorem decodeNat_encode32 (word : UInt32) : decodeNat (encode32 word) = word.toNat := by
  have bound := word.toNat_lt
  simp only [encode32, decodeNat, UInt8.toNat_ofNat']
  omega

end Octets

end PcmLink
